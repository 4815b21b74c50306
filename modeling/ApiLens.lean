import ApiLens.Main
import ApiLens.Proofs.Declaration.Composed
import ApiLens.Proofs.Declaration.Grown
import ApiLens.Proofs.Declaration.Shuffled
import ApiLens.Proofs.Declaration.SourceOrder
import ApiLens.Proofs.Declaration.Stacked
import ApiLens.Proofs.Declaration.Strict
import ApiLens.Proofs.Declaration.Traced
import ApiLens.Proofs.Declaration.Transparent
import ApiLens.Proofs.Declaration.Unplaced
import ApiLens.Proofs.Declaration.Wire
import ApiLens.Proofs.Lens.ModuleName
import ApiLens.Proofs.Lens.Placed
import ApiLens.Proofs.Overview.Arranged
import ApiLens.Proofs.Overview.Context
import ApiLens.Proofs.Overview.Place
import ApiLens.Proofs.Overview.Roots
import ApiLens.Proofs.Overview.Shuffled
import ApiLens.Proofs.Overview.Wire
import ApiLens.Proofs.Session.InForce
import ApiLens.Proofs.Session.Isolated
import ApiLens.Proofs.Session.Printed
import ApiLens.Proofs.Session.Resolved
import ApiLens.Proofs.Session.Told
import ApiLens.Proofs.Settings.Unordered
import ApiLens.Proofs.Tree.Calls
import ApiLens.Proofs.Tree.Image
import ApiLens.Proofs.Tree.Mirrored
import ApiLens.Proofs.Tree.Unread
import ApiLens.Proofs.Tree.Visible
import ApiLens.Proofs.Tree.Wire
import ApiLens.Tree.Walk
