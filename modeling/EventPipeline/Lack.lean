import EventPipeline.Json

/-!
# What a value does not offer

Where a value of any kind is used as if it were of a certain kind, the first feature that it does
not offer is what the failure names, together with the value's own kind.
-/

namespace EventPipeline

/-- Something lacks a feature. -/
structure Lack where
  /-- What lacks it, in words. -/
  owner : Text
  /-- The name of the feature. -/
  feature : Text
  deriving DecidableEq, Repr

namespace Lack

/-- A value of a kind lacks a feature. -/
def ofKind (kind feature : Text) : Lack where
  owner := '\'' :: (kind ++ "' object".toList)
  feature := feature

/-- An interchange value lacks a feature. -/
def ofJson (v : Json) (feature : String) : Lack :=
  ofKind v.kindWord feature.toList

/-- A type itself, and not a value of it, lacks a feature. -/
def ofType (name feature : Text) : Lack where
  owner := "type object '".toList ++ name ++ ['\'']
  feature := feature

/-- A module lacks a feature. -/
def ofModule (name feature : Text) : Lack where
  owner := "module '".toList ++ name ++ ['\'']
  feature := feature

/-- The wording of a failure. -/
def message (l : Lack) : Text :=
  l.owner ++ " has no attribute '".toList ++ l.feature ++ ['\'']

end Lack

end EventPipeline
