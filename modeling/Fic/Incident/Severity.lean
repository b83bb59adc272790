import Fic.Lib.Bytes

/-!
# Incident severities

The severities in their order, and the tokens under which they are stored.
-/

namespace Fic.Incident

open Fic.Lib

inductive IncidentSeverity
  | Unlocked
  | Soft
  | Standard
  | Hard
  | Isolate
  deriving DecidableEq, Repr

namespace IncidentSeverity

def toNat : IncidentSeverity → Nat
  | .Unlocked => 0
  | .Soft => 1
  | .Standard => 2
  | .Hard => 3
  | .Isolate => 4

theorem toNat_injective : Function.Injective toNat := by
  intro a b h
  cases a <;> cases b <;> first | rfl | cases h

instance : LinearOrder IncidentSeverity := LinearOrder.lift' toNat toNat_injective

theorem le_isolate (severity : IncidentSeverity) : severity ≤ .Isolate := by
  cases severity <;> decide

end IncidentSeverity

/-- The one table of tokens. -/
def kIncidentTokens : List (IncidentSeverity × Bytes) :=
  [(.Unlocked, lit "UNLOCKED"), (.Soft, lit "SOFT"), (.Standard, lit "STANDARD"),
    (.Hard, lit "HARD"), (.Isolate, lit "ISOLATE")]

/-- Every severity has a token, so the lookup never throws. -/
def incidentSeverityToken (severity : IncidentSeverity) : Bytes :=
  match kIncidentTokens.find? (·.1 = severity) with
  | some entry => entry.2
  | none => []

def parseIncidentSeverityToken (token : Bytes) : Option IncidentSeverity :=
  (kIncidentTokens.find? (·.2 = token)).map (·.1)

def incidentSeverityLess (left right : IncidentSeverity) : Bool := left.toNat < right.toNat

def maxIncidentSeverity (left right : IncidentSeverity) : IncidentSeverity :=
  if incidentSeverityLess left right then right else left

theorem maxIncidentSeverity_eq (left right : IncidentSeverity) :
    maxIncidentSeverity left right = max left right := by
  cases left <;> cases right <;> decide

def incidentSeverityIsUnlocked (severity : IncidentSeverity) : Bool := severity = .Unlocked

end Fic.Incident
