import FuryClash.Data.ListUpdate
import FuryClash.Data.Run
import FuryClash.Slot
import Mathlib.Data.List.Nodup
import Mathlib.Logic.Function.Basic

namespace FuryClash.Server

open FuryClash.Data

/-! `disconnect-handler.ts`, with the timers of Node that it sets. They live
outside of its map, and know their room and slot from their closure. -/

inductive TimerStatus where
  | live
  | cleared
  | fired
  deriving DecidableEq

structure Timer (Room : Type) where
  room : Room
  slot : Slot
  status : TimerStatus
  deriving DecidableEq

/-- A timer is named by the number of timers that have been set before it. -/
abbrev TimerRef := Nat

structure DisconnectState where
  slot : Slot
  timer : TimerRef

/-- `active` is the map of the handler. A call of `onForfeit` is kept with the
timer that has made it. -/
structure DisconnectHandler (Room : Type) where
  active : String → Option DisconnectState
  timers : List (Timer Room)
  forfeits : List (TimerRef × Room × Slot)

/-- What `onForfeit` does to the handler, `clear` of the room, comes behind the
timer as an event of its own. -/
inductive HandlerEvent (Room : Type) where
  | start (room : Room) (slot : Slot)
  | cancel (room : Room) (slot : Slot)
  | clear (room : Room)
  | expire (timer : TimerRef)

def slotText : Slot → String
  | .p1 => "0"
  | .p2 => "1"

namespace Timer

variable {Room : Type}

def clearTimeout (timer : Timer Room) : Timer Room :=
  if timer.status = .live then { timer with status := .cleared } else timer

end Timer

namespace DisconnectHandler

variable {Room : Type} (roomId : Room → String)

def fresh : DisconnectHandler Room where
  active _ := none
  timers := []
  forfeits := []

def key (room : Room) (slot : Slot) : String :=
  roomId room ++ ":" ++ slotText slot

def start (room : Room) (slot : Slot) (h : DisconnectHandler Room) :
    DisconnectHandler Room :=
  let key := key roomId room slot
  if (h.active key).isSome then h
  else
    { h with
      timers := h.timers ++ [⟨room, slot, .live⟩]
      active := Function.update h.active key (some ⟨slot, h.timers.length⟩) }

def cancel (room : Room) (slot : Slot) (h : DisconnectHandler Room) :
    DisconnectHandler Room :=
  let key := key roomId room slot
  match h.active key with
  | none => h
  | some state =>
      { h with
        timers := h.timers.modify state.timer Timer.clearTimeout
        active := Function.update h.active key none }

def isDisconnected (room : Room) (slot : Slot)
    (h : DisconnectHandler Room) : Bool :=
  (h.active (key roomId room slot)).isSome

def clear (room : Room) (h : DisconnectHandler Room) :
    DisconnectHandler Room :=
  (h.cancel roomId room .p1).cancel roomId room .p2

/-- Node calls back a timer that has neither been cleared nor fired. -/
def expire (timer : TimerRef) (h : DisconnectHandler Room) :
    DisconnectHandler Room :=
  match h.timers[timer]? with
  | some ⟨room, slot, .live⟩ =>
      { timers := h.timers.set timer ⟨room, slot, .fired⟩
        active := Function.update h.active (key roomId room slot) none
        forfeits := h.forfeits ++ [(timer, room, slot)] }
  | _ => h

def step : Machine (DisconnectHandler Room) (HandlerEvent Room)
  | h, .start room slot => h.start roomId room slot
  | h, .cancel room slot => h.cancel roomId room slot
  | h, .clear room => h.clear roomId room
  | h, .expire timer => h.expire roomId timer

/-- What the events ask of the timers. There is no map and no string in it. -/
def asked [DecidableEq Room] :
    Machine (List (Timer Room)) (HandlerEvent Room)
  | timers, .start room slot =>
      if ⟨room, slot, .live⟩ ∈ timers then timers
      else timers ++ [⟨room, slot, .live⟩]
  | timers, .cancel room slot =>
      timers.map fun timer =>
        if timer = ⟨room, slot, .live⟩ then ⟨room, slot, .cleared⟩ else timer
  | timers, .clear room =>
      timers.map fun timer =>
        if timer.room = room then timer.clearTimeout else timer
  | timers, .expire timer =>
      match timers[timer]? with
      | some ⟨room, slot, .live⟩ => timers.set timer ⟨room, slot, .fired⟩
      | _ => timers

def Live (h : DisconnectHandler Room) (room : Room) (slot : Slot)
    (timer : TimerRef) : Prop :=
  h.timers[timer]? = some ⟨room, slot, .live⟩

structure Exact (h : DisconnectHandler Room) : Prop where
  single : ∀ room slot first second,
    h.Live room slot first → h.Live room slot second → first = second
  disconnected : ∀ room slot, h.isDisconnected roomId room slot = true ↔
    ∃ timer, h.Live room slot timer
  forfeits : ∀ timer room slot, (timer, room, slot) ∈ h.forfeits ↔
    h.timers[timer]? = some ⟨room, slot, .fired⟩
  once : (h.forfeits.map Prod.fst).Nodup

/-- The map holds the live timers under their keys. -/
structure Tracks (h : DisconnectHandler Room) : Prop where
  active : ∀ room slot timer,
    (h.active (key roomId room slot)).map (·.timer) = some timer ↔
      h.Live room slot timer
  forfeits : ∀ timer room slot, (timer, room, slot) ∈ h.forfeits ↔
    h.timers[timer]? = some ⟨room, slot, .fired⟩
  once : (h.forfeits.map Prod.fst).Nodup

variable {roomId} {h : DisconnectHandler Room} {room : Room} {slot : Slot}
  {timer : TimerRef}

theorem key_inj (distinct : Function.Injective roomId) {room room' : Room}
    {slot slot' : Slot} (same : key roomId room slot = key roomId room' slot') :
    room = room' ∧ slot = slot' := by
  have digits := congrArg String.toList same
  simp only [key, String.toList_append] at digits
  have one (slot : Slot) : (slotText slot).toList.length = 1 := by
    cases slot <;> rfl
  obtain ⟨front, digit⟩ := List.append_inj' digits (by rw [one, one])
  refine ⟨distinct ?_, ?_⟩
  · exact String.toList_inj.mp (List.append_cancel_right front)
  · cases slot <;> cases slot' <;> first | rfl | cases digit

theorem fresh_tracks : (fresh : DisconnectHandler Room).Tracks roomId where
  active room slot timer :=
    iff_of_false (by intro tracked; cases tracked)
      (by intro live; cases live)
  forfeits timer room slot :=
    iff_of_false (List.not_mem_nil) (by intro fired; cases fired)
  once := List.nodup_nil

theorem Tracks.unique (tracks : h.Tracks roomId) {other : TimerRef}
    (live : h.Live room slot timer) (live' : h.Live room slot other) :
    timer = other :=
  Option.some.inj (((tracks.active room slot timer).mpr live).symm.trans
    ((tracks.active room slot other).mpr live'))

theorem Tracks.exact (tracks : h.Tracks roomId) : h.Exact roomId where
  single _ _ _ _ live live' := tracks.unique live live'
  disconnected room slot := by
    rw [isDisconnected, ← Option.isSome_map, Option.isSome_iff_exists]
    exact exists_congr fun timer => tracks.active room slot timer
  forfeits := tracks.forfeits
  once := tracks.once

theorem Tracks.not_mem (tracks : h.Tracks roomId)
    (free : h.active (key roomId room slot) = none) :
    ⟨room, slot, .live⟩ ∉ h.timers := by
  intro mem
  obtain ⟨timer, live⟩ := List.mem_iff_getElem?.mp mem
  have tracked := (tracks.active room slot timer).mpr live
  rw [free] at tracked
  cases tracked

/-- A live timer that ends leaves the map, and no other timer does. -/
theorem Tracks.ended (tracks : h.Tracks roomId)
    (distinct : Function.Injective roomId) (live : h.Live room slot timer)
    {status : TimerStatus} (ends : status ≠ .live) (room' : Room)
    (slot' : Slot) (other : TimerRef) :
    ((Function.update h.active (key roomId room slot) none)
        (key roomId room' slot')).map (·.timer) = some other ↔
      (h.timers.set timer ⟨room, slot, status⟩)[other]? =
        some ⟨room', slot', .live⟩ := by
  rw [getElem?_set_of_held live]
  by_cases same : key roomId room' slot' = key roomId room slot
  · obtain ⟨rfl, rfl⟩ := key_inj distinct same
    rw [Function.update_self]
    refine iff_of_false (by intro tracked; cases tracked) ?_
    split
    next =>
      intro isLive
      cases isLive
      exact ends rfl
    next apart => exact fun live' => apart (tracks.unique live live')
  · rw [Function.update_of_ne same, tracks.active]
    split
    next here =>
      subst here
      refine iff_of_false (fun live' => ?_) (fun isLive => ?_)
      · cases live.symm.trans live'
        exact same rfl
      · cases isLive
        exact same rfl
    next => exact Iff.rfl

theorem start_tracks (tracks : h.Tracks roomId)
    (distinct : Function.Injective roomId) :
    (h.start roomId room slot).Tracks roomId := by
  rw [start]
  split
  next => exact tracks
  next free =>
    rw [Option.not_isSome_iff_eq_none] at free
    have unknown := tracks.not_mem free
    refine ⟨fun room' slot' timer => ?_, fun timer room' slot' => ?_,
      tracks.once⟩
    · rw [Live]
      dsimp only
      by_cases same : key roomId room' slot' = key roomId room slot
      · obtain ⟨rfl, rfl⟩ := key_inj distinct same
        rw [Function.update_self, Option.map_some, Option.some_inj]
        constructor
        · rintro rfl
          exact List.getElem?_concat_length
        · intro live
          rcases of_getElem?_concat live with old | ⟨new, _⟩
          · exact absurd (List.mem_of_getElem? old) unknown
          · exact new.symm
      · rw [Function.update_of_ne same, tracks.active]
        constructor
        · exact fun live => getElem?_concat_of_held live _
        · intro live
          rcases of_getElem?_concat live with old | ⟨_, new⟩
          · exact old
          · cases new
            exact absurd rfl same
    · rw [tracks.forfeits]
      constructor
      · exact fun fired => getElem?_concat_of_held fired _
      · intro fired
        rcases of_getElem?_concat fired with old | ⟨_, new⟩
        · exact old
        · cases new

theorem cancel_eq (tracks : h.Tracks roomId) :
    h.cancel roomId room slot = h ∧
        (∀ timer, ¬ h.Live room slot timer) ∨
      ∃ timer, h.Live room slot timer ∧
        h.cancel roomId room slot =
          { h with
            timers := h.timers.set timer ⟨room, slot, .cleared⟩
            active :=
              Function.update h.active (key roomId room slot) none } := by
  rw [cancel]
  cases tracked : h.active (key roomId room slot) with
  | none =>
      refine .inl ⟨rfl, fun timer live => ?_⟩
      exact tracks.not_mem tracked (List.mem_of_getElem? live)
  | some state =>
      have live := (tracks.active room slot state.timer).mp (by
        rw [tracked, Option.map_some])
      refine .inr ⟨state.timer, live, ?_⟩
      dsimp only
      rw [modify_of_held live]
      rfl

theorem cancel_tracks (tracks : h.Tracks roomId)
    (distinct : Function.Injective roomId) (room : Room) (slot : Slot) :
    (h.cancel roomId room slot).Tracks roomId := by
  rcases cancel_eq tracks with ⟨same, _⟩ | ⟨timer, live, cancelled⟩
  · rw [same]
    exact tracks
  · rw [cancelled]
    refine ⟨tracks.ended distinct live (by decide),
      fun other room' slot' => ?_, tracks.once⟩
    rw [tracks.forfeits]
    dsimp only
    rw [getElem?_set_of_held live]
    split
    next here =>
      subst here
      exact iff_of_false (by rw [live]; intro fired; cases fired)
        (by intro fired; cases fired)
    next => exact Iff.rfl

theorem expire_tracks (tracks : h.Tracks roomId)
    (distinct : Function.Injective roomId) (timer : TimerRef) :
    (h.expire roomId timer).Tracks roomId := by
  rw [expire]
  split
  next room slot live =>
    have unlogged : ∀ room' slot', (timer, room', slot') ∉ h.forfeits := by
      intro room' slot' logged
      cases live.symm.trans ((tracks.forfeits _ _ _).mp logged)
    refine ⟨tracks.ended distinct live (by decide),
      fun other room' slot' => ?_, ?_⟩
    · dsimp only
      rw [getElem?_set_of_held live, List.mem_append, List.mem_singleton]
      split
      next here =>
        subst here
        rw [or_iff_right (unlogged room' slot')]
        constructor
        · intro same
          cases same
          rfl
        · intro same
          cases same
          rfl
      next apart =>
        rw [tracks.forfeits]
        refine or_iff_left fun same => ?_
        cases same
        exact apart rfl
    · dsimp only
      rw [List.map_append, List.nodup_append]
      refine ⟨tracks.once, List.nodup_singleton _, ?_⟩
      intro other before last mem same
      obtain ⟨entry, logged, rfl⟩ := List.mem_map.mp before
      have isTimer : entry.1 = timer := same.trans (List.mem_singleton.mp mem)
      exact unlogged entry.2.1 entry.2.2 (isTimer ▸ logged)
  next => exact tracks

theorem step_tracks (tracks : h.Tracks roomId)
    (distinct : Function.Injective roomId) (event : HandlerEvent Room) :
    (step roomId h event).Tracks roomId := by
  cases event with
  | start room slot => exact start_tracks tracks distinct
  | cancel room slot => exact cancel_tracks tracks distinct room slot
  | clear room =>
      exact cancel_tracks (cancel_tracks tracks distinct room .p1) distinct
        room .p2
  | expire timer => exact expire_tracks tracks distinct timer

variable [DecidableEq Room]

theorem cancel_timers (tracks : h.Tracks roomId) (room : Room)
    (slot : Slot) : (h.cancel roomId room slot).timers =
      asked h.timers (.cancel room slot) := by
  rw [asked]
  rcases cancel_eq tracks with ⟨same, free⟩ | ⟨timer, live, cancelled⟩
  · rw [same]
    refine (List.map_id' _).symm.trans (List.map_congr_left fun other mem => ?_)
    obtain ⟨timer, held⟩ := List.mem_iff_getElem?.mp mem
    rw [if_neg]
    rintro rfl
    exact free timer held
  · rw [cancelled]
    apply List.ext_getElem?
    intro i
    dsimp only
    rw [getElem?_set_of_held live, List.getElem?_map]
    split
    next here =>
      rw [← here, live, Option.map_some, if_pos rfl]
    next apart =>
      cases held : h.timers[i]? with
      | none => rfl
      | some other =>
          rw [Option.map_some, if_neg]
          rintro rfl
          exact apart (tracks.unique live held)

theorem asked_clear (timers : List (Timer Room)) (room : Room) :
    asked timers (.clear room) =
      asked (asked timers (.cancel room .p1)) (.cancel room .p2) := by
  rw [asked, asked, asked, List.map_map]
  refine List.map_congr_left fun timer _ => ?_
  obtain ⟨room', slot, status⟩ := timer
  by_cases same : room' = room
  · subst same
    cases slot <;> cases status <;> simp [Timer.clearTimeout]
  · simp [same]

theorem step_timers (tracks : h.Tracks roomId)
    (distinct : Function.Injective roomId) (event : HandlerEvent Room) :
    (step roomId h event).timers = asked h.timers event := by
  cases event with
  | start room slot =>
      change (h.start roomId room slot).timers = _
      rw [start, asked]
      cases tracked : h.active (key roomId room slot) with
      | none => rw [if_neg (tracks.not_mem tracked)]; rfl
      | some state =>
          have live := (tracks.active room slot state.timer).mp (by
            rw [tracked, Option.map_some])
          rw [if_pos (List.mem_of_getElem? live)]
          rfl
  | cancel room slot => exact cancel_timers tracks room slot
  | clear room =>
      rw [asked_clear, ← cancel_timers tracks]
      exact cancel_timers (cancel_tracks tracks distinct room .p1) room .p2
  | expire timer =>
      change (h.expire roomId timer).timers = _
      rw [expire, asked]
      split <;> rfl

theorem run_tracks (tracks : h.Tracks roomId)
    (distinct : Function.Injective roomId)
    (events : List (HandlerEvent Room)) :
    ((step roomId).run h events).Tracks roomId ∧
      ((step roomId).run h events).timers = asked.run h.timers events := by
  induction events generalizing h with
  | nil => exact ⟨tracks, rfl⟩
  | cons event rest ih =>
      rw [Machine.run_cons, Machine.run_cons,
        ← step_timers tracks distinct event]
      exact ih (step_tracks tracks distinct event)

omit [DecidableEq Room] in
theorem expire_other (h : DisconnectHandler Room) {other : TimerRef}
    (apart : other ≠ timer) :
    (h.expire roomId timer).timers[other]? = h.timers[other]? := by
  rw [expire]
  split
  next => exact List.getElem?_set_ne (Ne.symm apart)
  next => rfl

theorem forfeits_exact (roomId : Room → String)
    (distinct : Function.Injective roomId)
    (events : List (HandlerEvent Room)) :
    ((step roomId).run fresh events).Exact roomId ∧
      ((step roomId).run fresh events).timers = asked.run [] events ∧
      ∀ timer other, other ≠ timer →
        (((step roomId).run fresh events).expire roomId timer).timers[other]? =
          ((step roomId).run fresh events).timers[other]? := by
  obtain ⟨tracks, timers⟩ := run_tracks (h := fresh) fresh_tracks distinct
    events
  exact ⟨tracks.exact, timers, fun _ _ apart => expire_other _ apart⟩

/-- The timer that has been cancelled does not end the second one. -/
theorem forfeits_exact_restart :
    ((step id).run fresh [.start "a" .p1, .cancel "a" .p1, .start "a" .p1,
      .expire 0]).Exact id ∧
      ((step id).run fresh [.start "a" .p1, .cancel "a" .p1, .start "a" .p1,
        .expire 0]).timers = [⟨"a", .p1, .cleared⟩, ⟨"a", .p1, .live⟩] := by
  obtain ⟨exact', timers, _⟩ := forfeits_exact id Function.injective_id
    [.start "a" .p1, .cancel "a" .p1, .start "a" .p1, .expire 0]
  exact ⟨exact', timers.trans (by decide +kernel)⟩

end DisconnectHandler

end FuryClash.Server
