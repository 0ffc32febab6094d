import TypeExport.Conformance.Check
import TypeExport.Main
import TypeExport.Policy.Providers
import TypeExport.Proofs.Conformance.Serialized
import TypeExport.Proofs.Walk.Circles
import TypeExport.Proofs.Walk.Depth
import TypeExport.Proofs.Walk.Containment
import TypeExport.Proofs.Walk.Order
import TypeExport.Proofs.Walk.Replay
import TypeExport.Proofs.Walk.Unfolding
import TypeExport.Proofs.Walk.Embedding
import TypeExport.Proofs.Graph.Rebuild
import TypeExport.Proofs.Policy.Sorting
import TypeExport.Proofs.Walk.Parallel
import TypeExport.Proofs.Walk.Sorting
import TypeExport.Proofs.Declaration.Rendering
import TypeExport.Proofs.Walk.Merging
import TypeExport.Proofs.Declaration.Reading
import TypeExport.Proofs.Declaration.Comments
import TypeExport.Proofs.Declaration.Documentation
import TypeExport.Proofs.Declaration.Faithful
import TypeExport.Proofs.Graph.ReadBack
import TypeExport.Proofs.Host.ReadBack
import TypeExport.Proofs.Walk.Hidden
import TypeExport.Proofs.Walk.Pointers
import TypeExport.Proofs.Walk.Following
import TypeExport.Proofs.Walk.Renaming
import TypeExport.Proofs.Declaration.Refusal
import TypeExport.Proofs.Tool.AllOrNothing
import TypeExport.Proofs.Conformance.Reordering
import TypeExport.Proofs.Conformance.Places
import TypeExport.Proofs.Conformance.Literals
import TypeExport.Proofs.Text.BlankLines
import TypeExport.Proofs.Declaration.FirstFault
import TypeExport.Proofs.Host.Chains
import TypeExport.Proofs.Walk.Methods
import TypeExport.Proofs.Walk.Tags
import TypeExport.Proofs.Declaration.MemberNames
import TypeExport.Proofs.Walk.Arguments
import TypeExport.Proofs.Walk.Providers
import TypeExport.Proofs.Policy.Drafts
import TypeExport.Proofs.Tool.Settings
import TypeExport.Proofs.Walk.Discipline
