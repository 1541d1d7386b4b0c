import Mathlib.Data.List.Induction
import NameBridge.Proofs.Table.History

/-!
Builders that hold classes with different names.

Where no two classes share a name on either side nothing is ever replaced: the builder is `listed`, with one
slot for each class in order and both indices numbering the names. Adding a class extends the list, and
changing the members of a class changes its place in the list.
-/

namespace NameBridge.Table.Builder

def numbered (names : List String) : Std.HashMap String Nat :=
  names.zipIdx.foldl (fun index (name, i) => index.insert name i) ∅

theorem numbered_concat (names : List String) (name : String) :
    numbered (names ++ [name]) = (numbered names).insert name names.length := by
  simp [numbered, List.zipIdx_append]

theorem numbered_eq_none {names : List String} {name : String} (h : name ∉ names) : (numbered names)[name]? = none := by
  induction names using List.reverseRecOn with
  | nil => simp [numbered]
  | append_singleton names last ih =>
    simp only [List.mem_append, List.mem_singleton, not_or] at h
    rw [numbered_concat, Std.HashMap.getElem?_insert, if_neg (by simpa using Ne.symm h.2), ih h.1]

theorem numbered_eq_some {before after : List String} {name : String} (h : name ∉ after) :
    (numbered (before ++ name :: after))[name]? = some before.length := by
  induction after using List.reverseRecOn with
  | nil => simp [numbered_concat]
  | append_singleton after last ih =>
    simp only [List.mem_append, List.mem_singleton, not_or] at h
    rw [← List.cons_append, ← List.append_assoc, numbered_concat, Std.HashMap.getElem?_insert,
      if_neg (by simpa using Ne.symm h.2), ih h.1]

/-- The builder that holds these classes. -/
def listed (entries : List ClassEntry) : Builder where
  slots := (entries.map some).toArray
  byObfuscated := numbered (entries.map (·.obfuscated))
  byDeclared := numbered (entries.map (·.declared))

theorem insertClass_listed {entries : List ClassEntry} {c : ClassEntry}
    (hobfuscated : c.obfuscated ∉ entries.map (·.obfuscated)) (hdeclared : c.declared ∉ entries.map (·.declared)) :
    (listed entries).insertClass c = listed (entries ++ [c]) := by
  have hobf : (listed entries).byObfuscated[c.obfuscated]? = none := numbered_eq_none hobfuscated
  have hdecl : (listed entries).byDeclared[c.declared]? = none := numbered_eq_none hdeclared
  rw [insertClass, hobf, hdecl]
  simp only [evictFound, listed, List.map_append, List.map_cons, List.map_nil, numbered_concat, List.push_toArray,
    List.size_toArray, List.length_map]

/-- Classes with different names are listed one after the other. -/
theorem foldl_insertClass_listed {before entries : List ClassEntry}
    (hobfuscated : ((before ++ entries).map (·.obfuscated)).Nodup)
    (hdeclared : ((before ++ entries).map (·.declared)).Nodup) :
    entries.foldl insertClass (listed before) = listed (before ++ entries) := by
  induction entries generalizing before with
  | nil => rw [List.append_nil, List.foldl_nil]
  | cons c entries ih =>
    have hnew {f : ClassEntry → String} (h : ((before ++ c :: entries).map f).Nodup) : f c ∉ before.map f := by
      rw [List.map_append, List.nodup_append] at h
      exact fun hmem => h.2.2 _ hmem _ List.mem_cons_self rfl
    rw [List.foldl_cons, insertClass_listed (hnew hobfuscated) (hnew hdeclared), ih]
    · rw [List.append_assoc, List.singleton_append]
    · rwa [List.append_assoc, List.singleton_append]
    · rwa [List.append_assoc, List.singleton_append]

variable {before after : List ClassEntry} {c : ClassEntry}

theorem byDeclared_listed (h : c.declared ∉ after.map (·.declared)) :
    (listed (before ++ c :: after)).byDeclared[c.declared]? = some before.length := by
  have hpos : (numbered (before.map (·.declared) ++ c.declared :: after.map (·.declared)))[c.declared]? =
      some (before.map (·.declared)).length := numbered_eq_some h
  simpa [listed] using hpos

theorem withDeclared?_listed (h : c.declared ∉ after.map (·.declared)) :
    (listed (before ++ c :: after)).withDeclared? c.declared = some c := by
  rw [withDeclared?, byDeclared_listed h]
  simp [listed]

/-- Changing the members of a class changes its place in the list. -/
theorem modifyDeclared_listed (h : c.declared ∉ after.map (·.declared)) {change : ClassEntry → ClassEntry}
    (hdeclared : (change c).declared = c.declared) (hobfuscated : (change c).obfuscated = c.obfuscated) :
    (listed (before ++ c :: after)).modifyDeclared c.declared change = listed (before ++ change c :: after) := by
  have hslots : (listed (before ++ c :: after)).slots.modify before.length (·.map change) =
      (listed (before ++ change c :: after)).slots := by
    have hmodify : (before.map some ++ some c :: after.map some).modify (before.map some).length (·.map change) =
        before.map some ++ some (change c) :: after.map some := by
      rw [List.modify, ← Nat.add_zero (before.map some).length, List.modifyTailIdx_add]
      rfl
    rw [List.length_map] at hmodify
    simp [listed, hmodify]
  rw [modifyDeclared, byDeclared_listed h]
  dsimp only
  rw [hslots]
  simp only [listed, List.map_append, List.map_cons, hdeclared, hobfuscated]

theorem classes_build_listed (entries : List ClassEntry) : (listed entries).build.classes.toList = entries := by
  simp [build, classes, listed]

end NameBridge.Table.Builder
