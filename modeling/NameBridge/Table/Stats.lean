/-!
Counters of what was read into a table and what was left out.
-/

namespace NameBridge

/-- What became of the lines of a renaming file. -/
structure Stats where
  classes : Nat := 0
  fields : Nat := 0
  methods : Nat := 0
  /-- Records left out because their signature is malformed. -/
  malformedRecords : Nat := 0
  /-- Members of a class that the class list does not name. -/
  unresolvedMembers : Nat := 0
  /-- Constructors and static initializers. -/
  constructorsSkipped : Nat := 0
  /-- Lines that are no comment and no record. -/
  ignoredLines : Nat := 0
  deriving DecidableEq, Repr

namespace Stats

/-- The records that did not make it into the table. -/
def dropped (s : Stats) : Nat := s.malformedRecords + s.unresolvedMembers + s.constructorsSkipped

def ignoreLine (s : Stats) : Stats := { s with ignoredLines := s.ignoredLines + 1 }

def skipConstructor (s : Stats) : Stats := { s with constructorsSkipped := s.constructorsSkipped + 1 }

/-- Count one member of an unknown class. -/
def leaveUnresolved (s : Stats) : Stats := { s with unresolvedMembers := s.unresolvedMembers + 1 }

def skipMalformed (s : Stats) : Stats := { s with malformedRecords := s.malformedRecords + 1 }

end Stats

end NameBridge
