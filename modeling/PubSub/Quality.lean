import PubSub.Error
/-!
# Quality of service

The delivery guarantee that a subscription or a publish asks of the transport. The library never interprets the
level; it passes the level on as configured and counts it as one of the numbers 0, 1 and 2.
-/

namespace PubSub

/-- A delivery guarantee, from fire-and-forget to assured single delivery. -/
inductive QoS where
  | atMostOnce
  | atLeastOnce
  | exactlyOnce
  deriving DecidableEq, Inhabited

namespace QoS

/-- The number that stands for the guarantee on the wire. -/
def level : QoS → UInt8
  | atMostOnce => 0
  | atLeastOnce => 1
  | exactlyOnce => 2

/-- The guarantee that a number stands for, if it is one of the three levels. -/
def ofLevel? (level : Nat) : Option QoS :=
  match level with
  | 0 => some atMostOnce
  | 1 => some atLeastOnce
  | 2 => some exactlyOnce
  | _ => none

/-- The guarantee that a number stands for. A number that stands for none is named in the fault. -/
def checked (level : Nat) : Except ConfigFault QoS :=
  match ofLevel? level with
  | some quality => pure quality
  | none => throw (.invalidQoS level)

def inspect : QoS → String
  | atMostOnce => "AtMostOnce"
  | atLeastOnce => "AtLeastOnce"
  | exactlyOnce => "ExactlyOnce"

def text (quality : QoS) : String :=
  toString quality.level.toNat

theorem ofLevel?_level (quality : QoS) : ofLevel? quality.level.toNat = some quality := by
  cases quality <;> rfl

theorem ofLevel?_eq_some_iff {level : Nat} {quality : QoS} :
    ofLevel? level = some quality ↔ level = quality.level.toNat := by
  constructor
  · intro h
    unfold ofLevel? at h
    split at h <;> simp only [Option.some.injEq, reduceCtorEq] at h <;> subst h <;> rfl
  · rintro rfl
    exact ofLevel?_level quality

end QoS

/-- What every publish carries beside topic and payload. -/
structure PublishOptions where
  qos : QoS
  retain : Bool
  deriving DecidableEq

end PubSub
