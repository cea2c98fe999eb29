/-
  b3scale formalization — the meeting data of `pkg/bbb` that the cluster
  state stores, and the events a node's event stream delivers.

  * `Attendee` and `Meeting` are the fields of `bbb.Attendee` and
    `bbb.Meeting` (`response.go`) that the modelled functions read or write;
    `Meeting.attendees` is `none` for a `nil` slice;
  * `Meeting.update` is `Meeting.Update`;
  * `Event` has one constructor per event type `EventHandler.Dispatch`
    switches on, and one for any other `bbb.Event`.
-/
import Mathlib.Data.List.Basic

namespace B3scale
namespace Bbb

/-- An attendee of a meeting. -/
structure Attendee where
  userID : String
  internalUserID : String
  fullName : String
  deriving DecidableEq, Repr

/-- A meeting's mirrored state. -/
structure Meeting where
  meetingID : String
  internalMeetingID : String
  running : Bool
  /-- `none`: a `nil` slice -/
  attendees : Option (List Attendee)
  deriving DecidableEq, Repr

/-- The internal user ids of the attendees, in list order. -/
def Meeting.userIDs (m : Meeting) : List String :=
  (m.attendees.getD []).map Attendee.internalUserID

/-- `Meeting.Update`: the ids must agree; then the update replaces the
    meeting. -/
def Meeting.update (m u : Meeting) : Except String Meeting :=
  if m.meetingID ≠ u.meetingID then .error "meeting ids do not match for update"
  else if m.internalMeetingID ≠ u.internalMeetingID then
    .error "internal ids do not match for update"
  else .ok u

/-- The events of a node's event stream. -/
inductive Event
  | meetingCreated (internalMeetingID meetingID : String)
  | meetingEnded (internalMeetingID : String)
  | meetingDestroyed (internalMeetingID : String)
  | userJoinedMeeting (internalMeetingID : String) (attendee : Attendee)
  | userLeftMeeting (internalMeetingID internalUserID : String)
  /-- a `bbb.Event` of any other type -/
  | other (type : String)
  deriving DecidableEq, Repr

/-- The internal meeting id an event is about. -/
def Event.internalMeetingID : Event → Option String
  | .meetingCreated i _ | .meetingEnded i | .meetingDestroyed i | .userJoinedMeeting i _
  | .userLeftMeeting i _ => some i
  | .other _ => none

end Bbb
end B3scale
