import PongDevice.Fingerprint.ServiceOutputs

/-! Enumerations of the templates. The device sends one message a template, and the sessions
share one static vector that collects them until the last message of an enumeration arrives.
-/

namespace PongDevice.Fingerprint

open Transition

/-- An enumeration that the device accepted: the session that asked for it, counted from the
first one made, the templates found, and those of the messages that are still to come.
-/
structure Enumeration where
  number : Nat
  session : Nat
  templates : List (BitVec 32)
  left : List (BitVec 32)
deriving DecidableEq, Repr

/-- The id of each message of an enumeration: when there is no template, a single message
with id 0.
-/
def enumerated (templates : List (BitVec 32)) : List (BitVec 32) :=
  if templates = [] then [0] else templates

/-- The service and its device, with the enumerations accepted so far and those that still
have messages to come, which the device sends one after another.
-/
structure EnumeratingHal where
  service : Service
  accepted : Nat := 0
  enumerations : List Enumeration := []

namespace EnumeratingHal

/-- `enumerateEnrollments` on the session at a place, with the device's answer and, if it
accepts, the templates it finds; the arrival of its next message, with the group it names;
and any other event of the service.
-/
inductive Event where
  | enumerate (index : Nat) (error : Int) (templates : List (BitVec 32))
  | deliver (gid : BitVec 32)
  | other (event : Service.Event)
deriving Repr

end EnumeratingHal

/-- The events of the service that neither start nor report an enumeration. -/
def Service.Event.isNoEnumeration : Service.Event → Bool
  | .call _ (.enumerateEnrollments _) | .notify (.templateEnumerating _ _) => false
  | _ => true

namespace EnumeratingHal

/-- The enumeration whose message comes next, the id in it and the ids after it. -/
def front (hal : EnumeratingHal) : Option (Enumeration × BitVec 32 × List (BitVec 32)) :=
  match hal.enumerations with
  | [] => none
  | enumeration :: _ =>
      match enumeration.left with
      | [] => none
      | fid :: rest => some (enumeration, fid, rest)

/-- The message for an id with `rest` after it counts the templates that remain. -/
def message (gid fid : BitVec 32) (rest : List (BitVec 32)) : FingerprintMsg :=
  .templateEnumerating { gid, fid } (.ofNat 32 rest.length)

/-- The enumerations after the first one has sent a message. -/
def advance (enumeration : Enumeration) (rest : List (BitVec 32)) (later : List Enumeration)
    : List Enumeration :=
  if rest = [] then later else { enumeration with left := rest } :: later

/-- The number of templates that a message can count bounds those that the device finds. -/
def step (hal : EnumeratingHal) : Event → Option EnumeratingHal
  | .enumerate index error templates =>
      (hal.service.step (.call index (.enumerateEnrollments error))).bind (fun service =>
        if error ≠ 0 then
          some { hal with service }
        else if (enumerated templates).length ≤ 2 ^ 32 then
          some
            { hal with
              service
              accepted := hal.accepted + 1
              enumerations :=
                hal.enumerations
                  ++ [{
                      number := hal.accepted
                      session := hal.service.sessions.length - 1 - index
                      templates
                      left := enumerated templates
                    }]
            }
        else
          none)
  | .deliver gid =>
      hal.front.map (fun (enumeration, fid, rest) =>
        { hal with
          service := hal.service.notify (message gid fid rest)
          enumerations := advance enumeration rest hal.enumerations.tail
        })
  | .other event =>
      if event.isNoEnumeration then
        (hal.service.step event).map (fun service => { hal with service })
      else
        none

end EnumeratingHal

def enumeratingMachine : Machine EnumeratingHal EnumeratingHal.Event where
  step := EnumeratingHal.step

/-- The ids that reached a session since the last `onEnrollmentsEnumerated`, each with the
number of the enumeration that its message belonged to.
-/
def noteRelayed (relayed : List (Nat × BitVec 32)) (before : EnumeratingHal)
    (event : EnumeratingHal.Event) (_ : EnumeratingHal)
    : List (Nat × BitVec 32) :=
  match event, before.front with
  | .deliver _, some (enumeration, fid, rest) =>
      if before.service.isOpen then
        if rest = [] then [] else relayed ++ [(enumeration.number, fid)]
      else
        relayed
  | _, _ => relayed

/-- Enumerations together with the ids that reached a session. -/
def relayMachine
    : Machine (EnumeratingHal × List (Nat × BitVec 32)) EnumeratingHal.Event :=
  enumeratingMachine.observe noteRelayed

/-- An `onEnrollmentsEnumerated` carries the templates of the enumeration whose message sends
it, goes to the session that asked for it, and collects the ids of no other enumeration.
-/
def EnumeratesExactly (before : EnumeratingHal × List (Nat × BitVec 32))
    (event : EnumeratingHal.Event) (after : EnumeratingHal × List (Nat × BitVec 32))
    : Prop :=
  ∀ (number : Nat) (session later : Session) (enrollmentIds : List (BitVec 32)),
    before.1.service.sessions.reverse[number]? = some session
    → after.1.service.sessions.reverse[number]? = some later
    → .callback (.onEnrollmentsEnumerated enrollmentIds) ∈ session.newOutputs later
    → (∃ gid, event = .deliver gid)
      ∧ ∃ enumeration ∈ before.1.enumerations.head?,
        enrollmentIds = enumeration.templates
        ∧ number = enumeration.session
        ∧ ∀ entry ∈ before.2, entry.1 = enumeration.number

/-- When the last message of an enumeration reaches an open session, that session asked for
the enumeration, a template was found, and what has reached a session since the last
callback are all the earlier messages of this enumeration and none of another one.
-/
def Uninterrupted (before : EnumeratingHal × List (Nat × BitVec 32))
    (event : EnumeratingHal.Event) (_ : EnumeratingHal × List (Nat × BitVec 32))
    : Prop :=
  ∀ gid enumeration fid,
    event = .deliver gid
    → before.1.front = some (enumeration, fid, [])
    → before.1.service.isOpen = true
    → enumeration.session + 1 = before.1.service.sessions.length
      ∧ enumeration.templates ≠ []
      ∧ before.2.length + 1 = enumeration.templates.length
      ∧ ∀ entry ∈ before.2, entry.1 = enumeration.number

-----------------------------------------------------------------------------------------
-- Only the last message of an enumeration reports it
-----------------------------------------------------------------------------------------

def Output.isEnumerated : Output → Bool
  | .callback (.onEnrollmentsEnumerated _) => true
  | _ => false

/-- Reports of enumerations are relayed. -/
theorem Output.isRelayed_of_isEnumerated (output : Output) (reports : output.isEnumerated = true)
    : output.isRelayed = true := by
  unfold Output.isEnumerated at reports
  split at reports
  all_goals first | rfl | cases reports

/-- Only an enumeration message reports an enumeration. -/
theorem isEnumerated_notifyOutputs {session : Session} {now : Int}
    {enrollments : List (BitVec 32)} {msg : FingerprintMsg}
    (reports
      : (session.notifyOutputs now enrollments msg).any Output.isEnumerated = true)
    : ∃ finger remaining, msg = .templateEnumerating finger remaining := by
  cases msg with
  | templateEnumerating finger remaining => exact ⟨finger, remaining, rfl⟩
  | authenticated finger hat =>
      simp only [Session.notifyOutputs] at reports
      split at reports
      · cases reports
      · simp only [Session.lockoutOutputs] at reports
        split at reports <;> cases reports
  | acquired _ | templateEnrolling _ _ =>
      simp only [Session.notifyOutputs] at reports
      split at reports <;> cases reports
  | error _ | templateRemoved _ _ | unknown => cases reports

/-- Only an enumeration message changes the static vector. -/
theorem Session.notify_enrollments (session : Session) (now : Int)
    (enrollments : List (BitVec 32)) {msg : FingerprintMsg}
    (other : ∀ finger remaining, msg ≠ .templateEnumerating finger remaining)
    : (session.notify now enrollments msg).2 = enrollments := by
  cases msg with
  | templateEnumerating finger remaining => exact absurd rfl (other finger remaining)
  | error _ | acquired _ | templateEnrolling _ _ | templateRemoved _ _ | authenticated _ _
  | unknown => rfl

/-- An event that is no enumeration message reports none and leaves the static vector. -/
theorem no_enumerated_other {before after : Service} {event : Service.Event}
    (taken : serviceMachine.step before event = some after)
    (other : ∀ finger remaining, event ≠ .notify (.templateEnumerating finger remaining))
    : after.enrollments = before.enrollments
      ∧ ∀ session, (before.outputs event session).any Output.isEnumerated = false := by
  constructor
  · cases event with
    | createSession userId =>
        simp only [serviceMachine, Service.step, Service.createSession] at taken
        split at taken
        · obtain rfl := Option.some.inj taken
          rfl
        · cases taken
    | call index call | clientDeath index | lockoutTimerExpired index timer =>
        obtain ⟨_, _, _, _, rfl⟩ := Service.modify_eq_set taken
        rfl
    | elapse nanos =>
        obtain rfl := Option.some.inj taken
        rfl
    | notify msg =>
        rcases Service.newOutputs_notify taken with ⟨_, rfl, _⟩ | ⟨session, _, _, _, _, same, _⟩
        · rfl
        · rw [same]
          exact session.notify_enrollments _ _
            (fun finger remaining eq => other finger remaining (eq ▸ rfl))
  · intro session
    refine Bool.eq_false_iff.mpr (fun reports => ?_)
    obtain ⟨msg, rfl, sends⟩ :=
      Service.notify_of_isRelayed Output.isRelayed_of_isEnumerated reports
    obtain ⟨finger, remaining, rfl⟩ := isEnumerated_notifyOutputs sends
    exact other finger remaining rfl

/-- A message counts no remaining template exactly when it is the last one. -/
theorem remaining_eq_zero {rest : List (BitVec 32)} (few : rest.length < 2 ^ 32)
    : (BitVec.ofNat 32 rest.length) = 0 ↔ rest = [] := by
  rw [← List.length_eq_zero_iff]
  constructor
  · intro zero
    have count := congrArg BitVec.toNat zero
    simp only [BitVec.ofNat_eq_ofNat, BitVec.toNat_ofNat] at count
    omega
  · intro none
    rw [none]
    rfl

/-- An event is one of the service's that is no enumeration message, or the arrival of the
next one.
-/
theorem EnumeratingHal.step_cases {before after : EnumeratingHal} {event : Event}
    (taken : enumeratingMachine.step before event = some after)
    : (∃ seen,
        serviceMachine.step before.service seen = some after.service
        ∧ ∀ finger remaining, seen ≠ .notify (.templateEnumerating finger remaining))
      ∨ ∃ gid enumeration fid rest,
          event = .deliver gid
          ∧ before.front = some (enumeration, fid, rest)
          ∧ after
            = { before with
                service := before.service.notify (message gid fid rest)
                enumerations := advance enumeration rest before.enumerations.tail
              } := by
  cases event with
  | enumerate index error templates =>
      obtain ⟨service, asked, stepped⟩ := Option.bind_eq_some_iff.mp taken
      refine .inl ⟨.call index (.enumerateEnrollments error), ?_,
        fun _ _ same => by cases same⟩
      split at stepped
      · obtain rfl := Option.some.inj stepped
        exact asked
      · split at stepped
        · obtain rfl := Option.some.inj stepped
          exact asked
        · cases stepped
  | deliver gid =>
      obtain ⟨⟨enumeration, fid, rest⟩, next, rfl⟩ := Option.map_eq_some_iff.mp taken
      exact .inr ⟨gid, enumeration, fid, rest, rfl, next, rfl⟩
  | other event =>
      simp only [enumeratingMachine, step] at taken
      split at taken
      · rename_i other
        obtain ⟨service, stepped, rfl⟩ := Option.map_eq_some_iff.mp taken
        refine .inl ⟨event, stepped, ?_⟩
        intro finger remaining isOne
        rw [isOne] at other
        cases other
      · cases taken

-----------------------------------------------------------------------------------------
-- The vector collects what reached a session
-----------------------------------------------------------------------------------------

/-- The static vector holds the ids that reached a session since the last callback, and those
of an enumeration under way are, in their order, among the ids that were sent for it.
-/
structure Collects (hal : EnumeratingHal) (relayed : List (Nat × BitVec 32)) : Prop where
  vector : hal.service.enrollments = relayed.map Prod.snd
  distinct : (hal.enumerations.map Enumeration.number).Nodup
  known
    : (∀ enumeration ∈ hal.enumerations, enumeration.number < hal.accepted)
      ∧ ∀ entry ∈ relayed, entry.1 < hal.accepted
  sent
    : ∀ enumeration ∈ hal.enumerations,
      enumeration.left ≠ []
      ∧ (enumerated enumeration.templates).length ≤ 2 ^ 32
      ∧ ∃ sent,
        sent ++ enumeration.left = enumerated enumeration.templates
        ∧ ((relayed.filter (·.1 == enumeration.number)).map Prod.snd).Sublist sent

namespace Collects

variable {hal before after : EnumeratingHal} {relayed : List (Nat × BitVec 32)}

/-- The next message belongs to the enumeration at the front of the queue. -/
theorem front_eq_some {enumeration : Enumeration} {fid : BitVec 32}
    {rest : List (BitVec 32)} (next : hal.front = some (enumeration, fid, rest))
    : ∃ later,
        hal.enumerations = enumeration :: later ∧ enumeration.left = fid :: rest := by
  cases queue : hal.enumerations with
  | nil => simp [EnumeratingHal.front, queue] at next
  | cons first later =>
      cases left : first.left with
      | nil => simp [EnumeratingHal.front, queue, left] at next
      | cons head tail =>
          simp only [EnumeratingHal.front, queue, left, Option.some.injEq, Prod.mk.injEq]
            at next
          obtain ⟨rfl, rfl, rfl⟩ := next
          exact ⟨later, rfl, left⟩

/-- The message that ends the wait for an enumeration counts fewer than 2^32 others. -/
theorem few (sound : Collects hal relayed) {enumeration : Enumeration} {fid : BitVec 32}
    {rest : List (BitVec 32)} (next : hal.front = some (enumeration, fid, rest))
    : rest.length < 2 ^ 32 := by
  obtain ⟨later, queue, left⟩ := front_eq_some next
  obtain ⟨_, bound, sent, whole, _⟩ := sound.sent enumeration (queue ▸ List.mem_cons_self)
  have length := congrArg List.length whole
  simp only [left, List.length_append, List.length_cons] at length
  omega

/-- A new enumeration has sent nothing yet. -/
theorem enumerate {templates : List (BitVec 32)} {session : Nat} {service : Service}
    (sound : Collects hal relayed) (same : service.enrollments = hal.service.enrollments)
    (bound : (enumerated templates).length ≤ 2 ^ 32)
    : Collects
        { hal with
          service
          accepted := hal.accepted + 1
          enumerations :=
            hal.enumerations
              ++ [{ number := hal.accepted, session, templates, left := enumerated templates }]
        }
        relayed := by
  obtain ⟨numbers, tags⟩ := sound.known
  refine ⟨same.trans sound.vector, ?_, ⟨?_, ?_⟩, ?_⟩
  · rw [List.map_append]
    refine List.nodup_append.mpr ⟨sound.distinct, List.nodup_singleton _, ?_⟩
    intro number earlier new made
    obtain ⟨enumeration, member, rfl⟩ := List.mem_map.mp earlier
    obtain rfl := List.mem_singleton.mp made
    exact Nat.ne_of_lt (numbers enumeration member)
  · intro enumeration member
    rcases List.mem_append.mp member with earlier | new
    · exact Nat.lt_succ_of_lt (numbers enumeration earlier)
    · obtain rfl := List.mem_singleton.mp new
      exact Nat.lt_succ_self _
  · exact fun entry member => Nat.lt_succ_of_lt (tags entry member)
  · intro enumeration member
    rcases List.mem_append.mp member with earlier | new
    · exact sound.sent enumeration earlier
    · obtain rfl := List.mem_singleton.mp new
      refine ⟨?_, bound, [], rfl, ?_⟩
      · unfold enumerated
        split
        · exact List.cons_ne_nil _ _
        · assumption
      · have none : relayed.filter (·.1 == hal.accepted) = [] := by
          rw [List.filter_eq_nil_iff]
          intro entry member same
          exact Nat.ne_of_lt (tags entry member) (beq_iff_eq.mp same)
        simp [none]

/-- A message moves one id from what an enumeration has left to what was sent for it, however
much of it reaches a session.
-/
theorem sent_advance {enumeration : Enumeration} {fid : BitVec 32}
    {rest : List (BitVec 32)} {later : List Enumeration} {kept : List (Nat × BitVec 32)}
    (sound : Collects hal relayed) (queue : hal.enumerations = enumeration :: later)
    (left : enumeration.left = fid :: rest)
    (own
      : ((kept.filter (·.1 == enumeration.number)).map Prod.snd).Sublist
          ((relayed.filter (·.1 == enumeration.number)).map Prod.snd ++ [fid]))
    (others
      : ∀ number, number ≠ enumeration.number
        → (kept.filter (·.1 == number)).Sublist (relayed.filter (·.1 == number)))
    : ∀ next ∈ EnumeratingHal.advance enumeration rest later,
      next.left ≠ []
      ∧ (enumerated next.templates).length ≤ 2 ^ 32
      ∧ ∃ sent,
        sent ++ next.left = enumerated next.templates
        ∧ ((kept.filter (·.1 == next.number)).map Prod.snd).Sublist sent := by
  have behind : ∀ next ∈ later,
      next.left ≠ []
      ∧ (enumerated next.templates).length ≤ 2 ^ 32
      ∧ ∃ sent,
        sent ++ next.left = enumerated next.templates
        ∧ ((kept.filter (·.1 == next.number)).map Prod.snd).Sublist sent := by
    intro next member
    obtain ⟨more, bound, sent, whole, sublist⟩ :=
      sound.sent next (queue ▸ List.mem_cons_of_mem _ member)
    have distinct := sound.distinct
    rw [queue, List.map_cons, List.nodup_cons] at distinct
    have other : next.number ≠ enumeration.number := by
      intro same
      exact distinct.1 (same ▸ List.mem_map_of_mem member)
    exact ⟨more, bound, sent, whole, ((others next.number other).map Prod.snd).trans sublist⟩
  intro next member
  unfold EnumeratingHal.advance at member
  split at member
  · exact behind next member
  · rename_i more
    rcases List.mem_cons.mp member with rfl | behindIt
    · obtain ⟨_, bound, sent, whole, sublist⟩ :=
        sound.sent enumeration (queue ▸ List.mem_cons_self)
      rw [left] at whole
      exact ⟨more, bound, sent ++ [fid], by simpa using whole,
        own.trans (sublist.append (List.Sublist.refl [fid]))⟩
    · exact behind next behindIt

/-- Advancing the queue drops at most its first enumeration. -/
theorem numbers_advance (enumeration : Enumeration) (rest : List (BitVec 32))
    (later : List Enumeration)
    : ((EnumeratingHal.advance enumeration rest later).map Enumeration.number).Sublist
        (enumeration.number :: later.map Enumeration.number) := by
  unfold EnumeratingHal.advance
  split
  · exact List.sublist_cons_self _ _
  · exact List.Sublist.refl _

/-- A message moves one id of the first enumeration to the vector, if a session is open, and
the last one empties it.
-/
theorem deliver {enumeration : Enumeration} {fid : BitVec 32} {rest : List (BitVec 32)}
    {gid : BitVec 32} (sound : Collects before relayed)
    (next : before.front = some (enumeration, fid, rest))
    : Collects
        { before with
          service := before.service.notify (EnumeratingHal.message gid fid rest)
          enumerations := EnumeratingHal.advance enumeration rest before.enumerations.tail
        }
        (noteRelayed relayed before (.deliver gid) after) := by
  obtain ⟨later, queue, left⟩ := front_eq_some next
  have few := sound.few next
  have taken : serviceMachine.step before.service
      (.notify (EnumeratingHal.message gid fid rest))
        = some (before.service.notify (EnumeratingHal.message gid fid rest)) := rfl
  obtain ⟨numbers, tags⟩ := sound.known
  have distinct := sound.distinct
  have fewer := numbers_advance enumeration rest later
  rw [queue, List.map_cons] at distinct
  have known : ∀ next ∈ EnumeratingHal.advance enumeration rest later,
      next.number < before.accepted := by
    intro next member
    have among := fewer.subset (List.mem_map_of_mem member)
    rw [← List.map_cons, ← queue] at among
    obtain ⟨same, there, number⟩ := List.mem_map.mp among
    exact number ▸ numbers same there
  have first : enumeration.number < before.accepted :=
    numbers enumeration (queue ▸ List.mem_cons_self)
  simp only [noteRelayed, next, queue, List.tail_cons]
  rcases Service.newOutputs_notify taken with ⟨shut, same, _⟩ | ⟨session, _, opened, _, _,
    vector, _⟩
  · simp only [shut, Bool.false_eq_true, if_false, same]
    exact ⟨sound.vector, distinct.sublist fewer, ⟨known, tags⟩,
      sound.sent_advance queue left (List.sublist_append_left _ _) (fun _ _ => .refl _)⟩
  have collected : (before.service.notify (EnumeratingHal.message gid fid rest)).enrollments
      = if rest = [] then [] else before.service.enrollments ++ [fid] := by
    rw [vector]
    simp only [EnumeratingHal.message, Session.notify, remaining_eq_zero few]
    split <;> rfl
  simp only [opened, if_true]
  by_cases last : rest = []
  · rw [if_pos last] at collected ⊢
    exact ⟨collected, distinct.sublist fewer, ⟨known, by simp⟩,
      sound.sent_advance queue left (List.nil_sublist _) (fun _ _ => List.nil_sublist _)⟩
  · rw [if_neg last] at collected ⊢
    refine ⟨?_, distinct.sublist fewer, ⟨known, ?_⟩, sound.sent_advance queue left ?_ ?_⟩
    · rw [collected, sound.vector, List.map_append]
      rfl
    · intro entry member
      rcases List.mem_append.mp member with earlier | new
      · exact tags entry earlier
      · obtain rfl := List.mem_singleton.mp new
        exact first
    · simp
    · intro number other
      simp [Ne.symm other]

/-- Every event keeps the vector to what has reached a session. -/
theorem step {event : EnumeratingHal.Event} (sound : Collects before relayed)
    (taken : enumeratingMachine.step before event = some after)
    : Collects after (noteRelayed relayed before event after) := by
  cases event with
  | enumerate index error templates =>
      obtain ⟨service, asked, stepped⟩ := Option.bind_eq_some_iff.mp taken
      have called : serviceMachine.step before.service
          (.call index (.enumerateEnrollments error)) = some service := asked
      obtain ⟨same, _⟩ := no_enumerated_other called (fun _ _ same => by cases same)
      split at stepped
      · obtain rfl := Option.some.inj stepped
        exact { sound with vector := same.trans sound.vector }
      · split at stepped
        · rename_i bound
          obtain rfl := Option.some.inj stepped
          exact sound.enumerate same bound
        · cases stepped
  | deliver gid =>
      obtain ⟨⟨enumeration, fid, rest⟩, next, rfl⟩ := Option.map_eq_some_iff.mp taken
      exact sound.deliver next
  | other event =>
      simp only [enumeratingMachine, EnumeratingHal.step] at taken
      split at taken
      · rename_i other
        obtain ⟨service, stepped, rfl⟩ := Option.map_eq_some_iff.mp taken
        obtain ⟨same, _⟩ := no_enumerated_other stepped (by
          intro finger remaining isOne
          rw [isOne] at other
          cases other)
        exact { sound with vector := same.trans sound.vector }
      · cases taken

end Collects

/-- Only a message of an enumeration makes a session report one: the last one, which reports
what the vector holds with its id.
-/
theorem enumerated_of_session {before after : EnumeratingHal}
    {event : EnumeratingHal.Event} {number : Nat} {session later : Session}
    {enrollmentIds : List (BitVec 32)} {relayed : List (Nat × BitVec 32)}
    (sound : Collects before relayed)
    (taken : enumeratingMachine.step before event = some after)
    (present : before.service.sessions.reverse[number]? = some session)
    (there : after.service.sessions.reverse[number]? = some later)
    (reports
      : .callback (.onEnrollmentsEnumerated enrollmentIds) ∈ session.newOutputs later)
    : number + 1 = before.service.sessions.length
      ∧ before.service.isOpen = true
      ∧ ∃ gid enumeration fid,
        event = .deliver gid
        ∧ before.front = some (enumeration, fid, [])
        ∧ enrollmentIds = relayed.map Prod.snd ++ [fid] := by
  rcases EnumeratingHal.step_cases taken with ⟨seen, stepped, other⟩ | ⟨gid, enumeration, fid,
    rest, rfl, next, rfl⟩
  · obtain ⟨_, none⟩ := no_enumerated_other stepped other
    rcases Service.numbered_step stepped present there with rfl | ⟨_, _, _, moved⟩
    · simp at reports
    · rw [Session.newOutputs_eq moved.sent] at reports
      exact absurd rfl (List.any_eq_false.mp (none session) _ reports)
  have notified : serviceMachine.step before.service
      (.notify (EnumeratingHal.message gid fid rest))
        = some (before.service.notify (EnumeratingHal.message gid fid rest)) := rfl
  rcases Service.numbered_step notified present there with rfl | ⟨index, reaches, placed, moved⟩
  · simp at reports
  obtain rfl := Option.some.inj reaches
  rw [Session.newOutputs_eq moved.sent] at reports
  simp only [Service.outputs] at reports
  split at reports
  · cases reports
  rename_i opened
  simp only [EnumeratingHal.message, Session.notifyOutputs,
    remaining_eq_zero (sound.few next)] at reports
  split at reports
  · rename_i last
    subst last
    have same := SessionCallback.onEnrollmentsEnumerated.inj
      (Output.callback.inj (List.mem_singleton.mp reports))
    refine ⟨by omega, ?_, gid, enumeration, fid, rfl, next, ?_⟩
    · obtain ⟨inside, _⟩ := List.getElem?_eq_some_iff.mp present
      rw [List.length_reverse] at inside
      have first : before.service.sessions.length - 1 - number = 0 := by omega
      rw [List.getElem?_reverse inside, first] at present
      rw [Service.isOpen, Service.mSession, List.head?_eq_getElem?, present]
      simpa using opened
    · rw [same, sound.vector]
  · cases reports

/-- The last message of an enumeration makes the open session report what the vector holds
with its id.
-/
theorem reports_last {before after : EnumeratingHal} {gid : BitVec 32}
    {enumeration : Enumeration} {fid : BitVec 32}
    (taken : enumeratingMachine.step before (.deliver gid) = some after)
    (next : before.front = some (enumeration, fid, []))
    (opened : before.service.isOpen = true)
    : ∃ session later,
        before.service.sessions.reverse[before.service.sessions.length - 1]? = some session
        ∧ after.service.sessions.reverse[before.service.sessions.length - 1]? = some later
        ∧ .callback (.onEnrollmentsEnumerated (before.service.enrollments ++ [fid]))
          ∈ session.newOutputs later
        ∧ before.service.sessions ≠ [] := by
  obtain ⟨found, same, rfl⟩ := Option.map_eq_some_iff.mp taken
  obtain rfl := Option.some.inj (next.symm.trans same)
  have notified : serviceMachine.step before.service
      (.notify (EnumeratingHal.message gid fid []))
        = some (before.service.notify (EnumeratingHal.message gid fid [])) := rfl
  rcases Service.newOutputs_notify notified with ⟨shut, _⟩ | ⟨session, earlier, _, sessions,
    changed, _, _⟩
  · rw [opened] at shut
    cases shut
  have moved := session.sent_notify before.service.now before.service.enrollments
    (EnumeratingHal.message gid fid [])
  have inside : before.service.sessions.length - 1 < before.service.sessions.length := by
    rw [sessions, List.length_cons]
    omega
  refine ⟨session,
    (session.notify before.service.now before.service.enrollments
      (EnumeratingHal.message gid fid [])).1,
    ?_, ?_, ?_, by simp [sessions]⟩
  · rw [List.getElem?_reverse inside, Nat.sub_self, sessions, List.getElem?_cons_zero]
  · have length := Service.length_step notified rfl
    rw [List.getElem?_reverse (by rw [length]; exact inside), length, Nat.sub_self, changed,
      List.getElem?_cons_zero]
  · rw [Session.newOutputs_eq moved]
    exact List.mem_singleton_self _

/-- An enumeration is reported exactly, when it is, exactly when it was not interrupted.
Witness: without interruption the vector holds all earlier ids of the enumeration, because
it holds as many of them.
-/
theorem enumeratesExactly_iff {before after : EnumeratingHal}
    {event : EnumeratingHal.Event} {relayed : List (Nat × BitVec 32)}
    (sound : Collects before relayed)
    (taken : enumeratingMachine.step before event = some after)
    : EnumeratesExactly (before, relayed) event
        (after, noteRelayed relayed before event after)
      ↔ Uninterrupted (before, relayed) event
        (after, noteRelayed relayed before event after) := by
  constructor
  · intro exactly gid enumeration fid same next opened
    subst same
    obtain ⟨session, later, present, there, reports, some_session⟩ :=
      reports_last taken next opened
    obtain ⟨_, reported, first, ids, own, tags⟩ :=
      exactly _ session later _ present there reports
    obtain ⟨behind, queue, left⟩ := Collects.front_eq_some next
    rw [queue] at first
    obtain rfl := Option.some.inj first
    have count := congrArg List.length ids
    rw [sound.vector, List.length_append, List.length_map, List.length_singleton] at count
    have filled := List.length_pos_iff.mpr some_session
    refine ⟨by dsimp only; omega, ?_, count, tags⟩
    intro none
    rw [none] at count
    exact absurd count (Nat.succ_ne_zero _)
  · intro whole number session later enrollmentIds present there reports
    obtain ⟨last, opened, gid, enumeration, fid, rfl, next, ids⟩ :=
      enumerated_of_session sound taken present there reports
    obtain ⟨own, found, count, tags⟩ := whole gid enumeration fid rfl next opened
    dsimp only at own count
    obtain ⟨behind, queue, left⟩ := Collects.front_eq_some next
    refine ⟨⟨gid, rfl⟩, enumeration, by rw [queue]; rfl, ?_, by omega, tags⟩
    obtain ⟨_, _, sent, all, sublist⟩ := sound.sent enumeration (queue ▸ List.mem_cons_self)
    have templates : enumerated enumeration.templates = enumeration.templates := if_neg found
    have only : relayed.filter (·.1 == enumeration.number) = relayed :=
      List.filter_eq_self.mpr (fun entry member => beq_iff_eq.mpr (tags entry member))
    rw [only] at sublist
    rw [left, templates] at all
    have lengths := congrArg List.length all
    rw [List.length_append, List.length_singleton] at lengths
    have same : relayed.map Prod.snd = sent := by
      apply sublist.eq_of_length
      rw [List.length_map]
      omega
    rw [ids, same, all]

/-- In a run of the service with its device, every `onEnrollmentsEnumerated` carries exactly
the templates of one enumeration of its session, exactly when no enumeration whose last
message reaches an open session was empty, interrupted or asked for by another session.
-/
theorem enumeratesExactly_always_iff (now : Int) (events : List EnumeratingHal.Event)
    : relayMachine.Along EnumeratesExactly ({ service := { now } }, []) events
      ↔ relayMachine.Along Uninterrupted ({ service := { now } }, []) events := by
  refine Machine.observe_along_congr (fun state => Collects state.1 state.2) ?_ ?_ ?_
    (Machine.along_true _ _)
  · intro before relayed event after sound taken _
    exact enumeratesExactly_iff sound taken
  · intro before relayed event after sound taken _ _
    exact sound.step taken
  · exact ⟨rfl, .nil, ⟨nofun, nofun⟩, nofun⟩

/-- The device finds no template and says so with id 0: the client is given that id. -/
theorem enumeratesExactly_fails_empty
    : ¬relayMachine.Along EnumeratesExactly ({ service := { now := 1 } }, [])
        [.other (.createSession 0), .enumerate 0 0 [], .deliver 0] := by
  intro along
  have last := (((along _ rfl).2 _ rfl).2 _ rfl).1
  obtain ⟨_, enumeration, first, ids, _⟩ :=
    last 0 _ _ [0] rfl rfl (by decide)
  obtain rfl := Option.some.inj first
  cases ids

end PongDevice.Fingerprint
