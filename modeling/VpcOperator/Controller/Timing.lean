import VpcOperator.Controller.Seconds
import VpcOperator.Text.Quoted

/-!
# Timing

The delays between passes and the time a pass may take. Each can be set from
outside and has a default.
-/

namespace VpcOperator

/-- All in seconds. -/
structure Timing where
  /-- Before the next pass, while resources are being provisioned. -/
  requeue : Nat
  /-- After a failed pass. -/
  errorRequeue : Nat
  /-- Before a cluster is looked at again that is ready. -/
  resync : Nat
  passTimeout : Nat
  deriving DecidableEq

def Timing.default : Timing :=
  { requeue := 15, errorRequeue := 60, resync := 600, passTimeout := 300 }

inductive Setting where
  | requeue
  | errorRequeue
  | resync
  | passTimeout
  deriving DecidableEq

namespace Setting

def key : Setting → String
  | requeue => "VPC_RECONCILER_REQUEUE_SECS"
  | errorRequeue => "VPC_RECONCILER_ERROR_REQUEUE_SECS"
  | resync => "VPC_RECONCILER_RESYNC_SECS"
  | passTimeout => "VPC_RECONCILER_PASS_TIMEOUT_SECS"

def default : Setting → Nat
  | requeue => Timing.default.requeue
  | errorRequeue => Timing.default.errorRequeue
  | resync => Timing.default.resync
  | passTimeout => Timing.default.passTimeout

end Setting

inductive SettingFault where
  | notANumber (setting : Setting) (value : String) (cause : NumberFault)
  | zero (setting : Setting)
  deriving DecidableEq

namespace SettingFault

/-- The message, and what lies behind it. -/
def messages : SettingFault → List String
  | notANumber setting value cause =>
    [setting.key ++ " must be a number of seconds, got " ++ Text.quote value, cause.message]
  | zero setting => [setting.key ++ " must be greater than zero"]

end SettingFault

namespace Timing

def readSetting (setting : Setting) (value : Option String) : Except SettingFault Nat :=
  match value with
  | none => .ok setting.default
  | some text =>
    match Seconds.read text with
    | .error cause => .error (.notANumber setting text cause)
    | .ok seconds => if seconds = 0 then .error (.zero setting) else .ok seconds

/-- Looks a setting up and notes that it did. -/
def consult (lookUp : String → Option String) (setting : Setting) :
    ExceptT SettingFault (StateM (List Setting)) Nat := do
  modify (· ++ [setting])
  ExceptT.mk (return readSetting setting (lookUp setting.key))

/-- Also gives the settings that were looked up, in order: none after the first fault. -/
def load (lookUp : String → Option String) : Except SettingFault Timing × List Setting :=
  let reading : ExceptT SettingFault (StateM (List Setting)) Timing := do
    let requeue ← consult lookUp .requeue
    let errorRequeue ← consult lookUp .errorRequeue
    let resync ← consult lookUp .resync
    let passTimeout ← consult lookUp .passTimeout
    return { requeue, errorRequeue, resync, passTimeout }
  reading.run.run []

/-- The moment a pass that starts now has to end at. The clock holds signed 64-bit seconds. -/
def deadline? (timing : Timing) (now : Nat) : Option Nat :=
  if now + timing.passTimeout < 1 <<< 63 then some (now + timing.passTimeout) else none

end Timing

end VpcOperator
