import CastLaunch.Text.Quoted

/-!
A value of the wrong shape: something that cannot be walked through, looked up,
compared or asked for a part.
-/

namespace CastLaunch

inductive ShapeError where
  | notIterable (type : String)
  | notKey (type : String)
  | noOrder (left right : String)
  /-- A list asked for a named entry. -/
  | listIndex
  /-- A value without the named part. -/
  | noPart (type part : String)
  | notPath (type : String)
  deriving DecidableEq, Repr

open CastLaunch.Text in
def ShapeError.message : ShapeError → String
  | .notIterable type => quoted type ++ " object is not iterable"
  | .notKey type => "unhashable type: " ++ quoted type
  | .noOrder left right =>
    "'<' not supported between instances of " ++ quoted left ++ " and " ++ quoted right
  | .listIndex => "list indices must be integers or slices, not str"
  | .noPart type part => quoted type ++ " object has no attribute " ++ quoted part
  | .notPath type => "expected str, bytes or os.PathLike object, not " ++ type

end CastLaunch
