import ShapeBinding.Bind
import ShapeBinding.Compile
import ShapeBinding.Datatype.Builtin
import ShapeBinding.Entity.Triples
import ShapeBinding.Proofs.Bind.Exact
import ShapeBinding.Proofs.Bind.Interleaving
import ShapeBinding.Proofs.Bind.Monotone
import ShapeBinding.Proofs.Bind.Strict
import ShapeBinding.Proofs.Catalog.Registered
import ShapeBinding.Proofs.Compile.Locality
import ShapeBinding.Proofs.Compile.Supported
import ShapeBinding.Proofs.Datatype.Written
import ShapeBinding.Proofs.Entity.Edited
import ShapeBinding.Proofs.Entity.LastWrite
import ShapeBinding.Proofs.Graph.Calls
import ShapeBinding.Proofs.Namespace.Qualify
import ShapeBinding.Proofs.Precedence.Circle
import ShapeBinding.Proofs.Precedence.Least
import ShapeBinding.Proofs.Schema.Frame
import ShapeBinding.Proofs.Schema.Labels
import ShapeBinding.Proofs.Shape.Count
import ShapeBinding.Proofs.Sketch.Compiled
import ShapeBinding.Proofs.Term.Text
import ShapeBinding.Proofs.Time.Consecutive
import ShapeBinding.Proofs.WriteBack.Canonical
import ShapeBinding.Proofs.WriteBack.Trees
import ShapeBinding.Schema.Fingerprint
import ShapeBinding.Sketch
