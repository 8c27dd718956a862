import DexMethod.Access.Edit
import DexMethod.Access.Stored
import DexMethod.Declaration.Dispatch
import DexMethod.Declaration.Source
import DexMethod.Draft.Method
import DexMethod.Draft.Reference
import DexMethod.Fault
import DexMethod.Proofs.Access.ModifierLine
import DexMethod.Proofs.Access.Run
import DexMethod.Proofs.Access.Stored
import DexMethod.Proofs.Declaration.Flags
import DexMethod.Proofs.Declaration.Lead
import DexMethod.Proofs.Declaration.Source
import DexMethod.Proofs.Declaration.Stored
import DexMethod.Proofs.Draft.Erasure
import DexMethod.Proofs.Draft.Label
import DexMethod.Proofs.Draft.Outcome
import DexMethod.Proofs.Draft.Shorty
import DexMethod.Proofs.Fault
import DexMethod.Proofs.Prototype.Arguments
import DexMethod.Proofs.Reference.Display
