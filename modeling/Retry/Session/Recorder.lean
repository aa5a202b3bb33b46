import Retry.Builder.Call
import Retry.Session.Outlook

/-!
# Recorders that take values

What a recorder does while values are kept with it.  A list in the place of its record
takes entries behind its items, and no other value takes any.
-/

namespace Retry

/-- A recorder with the values kept with it. -/
abbrev HeldRecorder : Type := Annotated Recorder

namespace HeldRecorder

/-- The place of a record. -/
def recordPlace : String := "calls"

/-- The place of the markers of defaults bundles. -/
def markersPlace : String := "added"

/-- All places of a recorder. -/
def places : List String := [recordPlace, markersPlace]

/-- Passes where the record takes entries. -/
def takesEntries (recorder : HeldRecorder) : Except Fault Unit := do
  match ← recorder.attributes.content recordPlace () with
  | .own () | .value (.list _) => return ()
  | .value _ => throw .missingMember

/-- Marks a defaults bundle as taken in, which a value in the place of the markers
cannot do. -/
def mark
    (name : Value)
    (recorder : HeldRecorder) : Step HeldRecorder :=
  .ofExcept recorder do
    match ← recorder.attributes.content markersPlace () with
    | .own () => return ⟨← recorder.object.mark name, recorder.attributes⟩
    | .value _ => throw .missingMember

/-- A recorder with one more entry. -/
def record
    (entry : Entry)
    (recorder : HeldRecorder) : HeldRecorder :=
  recorder.map (·.record entry)

/-- What a call does, unless it or the recording of calls is hidden. -/
def call
    (call : Call)
    (recorder : HeldRecorder) : Step HeldRecorder :=
  if call matches .markDefaults _ && !recorder.object.tracksDefaults then
    .failed recorder .missingMember
  else
    match recorder.attributes.reach [call.name, "_rec"], recorder.takesEntries, call with
    | .error fault, _, _ | .ok (), .error fault, _ => .failed recorder fault
    | .ok (), .ok (), .markDefaults name => (recorder.record (.called call)).mark name
    | .ok (), .ok (), call => .done (recorder.record (.called call))

/-- Whether a defaults bundle is still to be taken in.  The question is recorded
first. -/
def lacksDefaults
    (recorder : HeldRecorder)
    (name : Value) : HeldRecorder × Except Fault Bool :=
  match recorder.attributes.reach ["should_add_defaults", "_rec"], recorder.takesEntries with
  | .error fault, _ | .ok (), .error fault => (recorder, .error fault)
  | .ok (), .ok () =>
    let (asked, answer) := recorder.object.lacksDefaults name
    (⟨asked, recorder.attributes⟩, do
      match ← recorder.attributes.content markersPlace () with
      | .own () => answer
      | .value value => return !(← compatible (value.holds? name)))

instance instAcceptsCalls : AcceptsCalls HeldRecorder where
  label recorder := AcceptsCalls.label recorder.object
  tracksDefaults recorder := AcceptsCalls.tracksDefaults recorder.object
  call := call
  lacksDefaults := lacksDefaults

end HeldRecorder
end Retry
