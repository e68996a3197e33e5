import Typeflow.Type.Declarations

set_option autoImplicit false

namespace Typeflow

inductive Variance where
  | covariant
  | contravariant
deriving DecidableEq

def Variance.flip : Variance → Variance
  | .covariant => .contravariant
  | .contravariant => .covariant

namespace Declarations

def reaches (ds : Declarations) (src dst : Ty) : Bool :=
  (ds.search (fun t => if t.equal dst then some t else none) src).isSome

def flowsTo (ds : Declarations) (src dst : Ty) : Bool :=
  !src.isUnknown && !dst.isUnknown &&
    (src.isAny || dst.isAny || ds.reaches src dst)

mutual

-- A lambda whose expected result is void may return anything.
def fits (ds : Declarations) (v : Variance) : Ty → Ty → Bool
  | .lambda ps r, .lambda qs s =>
    (Ty.lambda ps r).equal (.lambda qs s) ||
      (ds.fitsParams v.flip ps qs &&
        ((match v with
          | .covariant => s
          | .contravariant => r).isVoid || ds.fits v r s))
  | a, b =>
    match v with
    | .covariant => ds.flowsTo a b
    | .contravariant => ds.flowsTo b a

def fitsParams (ds : Declarations) (v : Variance) : List (String × Ty) → List (String × Ty) → Bool
  | [], [] => true
  | (_, a) :: as, (_, b) :: bs => ds.fits v a b && ds.fitsParams v as bs
  | _, _ => false

end

def assignable (ds : Declarations) (src dst : Ty) : Bool := ds.fits .covariant src dst

end Declarations

end Typeflow
