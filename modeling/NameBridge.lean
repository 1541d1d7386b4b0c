import NameBridge.Grammar.Flat
import NameBridge.Grammar.Retrace
import NameBridge.Main
import NameBridge.Proofs.Grammar.Agreement
import NameBridge.Proofs.Resolve.Methods
import NameBridge.Proofs.Service.Requests
import NameBridge.QueryJson
import NameBridge.Service.Workshop
import NameBridge.Proofs.Service.Publishing
import NameBridge.Proofs.Resolve.Spellings
import NameBridge.Proofs.Grammar.Records
import NameBridge.Proofs.Grammar.Blocks
import NameBridge.Proofs.Table.Fields
import NameBridge.Proofs.Table.Outcomes
import NameBridge.Proofs.Grammar.Policies
import NameBridge.Proofs.Grammar.Accounting
import NameBridge.Proofs.Service.Claiming
import NameBridge.Proofs.Service.Generations
import NameBridge.Proofs.Service.Builds
import NameBridge.Proofs.Grammar.Comments
import NameBridge.Proofs.Resolve.SourceTypes
import NameBridge.Proofs.Resolve.MethodTexts
import NameBridge.Proofs.Cli.Descriptions
import NameBridge.Proofs.TypeName.Overloads
import NameBridge.Proofs.TypeName.Refusals
import NameBridge.Proofs.Resolve.FieldDescriptions
import NameBridge.Proofs.Grammar.MemberLines
import NameBridge.Proofs.Table.Positions
import NameBridge.Proofs.Resolve.Walks
import NameBridge.Proofs.Service.Settling
import NameBridge.Proofs.Text.Calls
import NameBridge.Proofs.Service.Waiting
import NameBridge.Proofs.TypeName.ArgumentLists
import NameBridge.Proofs.TypeName.NormalForms
