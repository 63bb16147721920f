import Pinaivu.Lib.Runs

/-!
A stream that a task feeds through a bounded channel. The task takes one input after another and sends what
it makes of them; the consumer maps what it receives, with a count of its own. The moves of the two may come
in any order.
-/

namespace ChannelStream

/-- What the task makes of an input, and the items after which it ends. -/
structure Task (Input Item : Type) where
  capacity : Nat
  handle : Input → Option Item
  stops : Item → Bool

variable {Input Item Output Count : Type} (task : Task Input Item) (map : Count → Item → Output × Count)

def produced : List Input → List Item
  | [] => []
  | input :: rest =>
      match task.handle input with
      | none => produced rest
      | some item => item :: if task.stops item then [] else produced rest

def mapped : Count → List Item → List Output
  | _, [] => []
  | count, item :: rest => (map count item).1 :: mapped (map count item).2 rest

inductive Phase (Item : Type) where
  | reading
  | sending (item : Item)
  | ended

/-- `dropped` says that the consumer has dropped the stream, `closed` that it has seen the end of it. -/
structure Pipe (Input Item Output Count : Type) where
  inputs : List Input
  phase : Phase Item
  channel : List Item
  count : Count
  yielded : List Output
  dropped : Bool
  closed : Bool

inductive Move where
  | read
  | send
  | poll
  | drop
  deriving DecidableEq

def start (inputs : List Input) (count : Count) : Pipe Input Item Output Count :=
  ⟨inputs, .reading, [], count, [], false, false⟩

/-- A move that would have to wait changes nothing. -/
def step (pipe : Pipe Input Item Output Count) : Move → Pipe Input Item Output Count
  | .read =>
      match pipe.phase, pipe.inputs with
      | .reading, [] => { pipe with phase := .ended }
      | .reading, input :: rest =>
          match task.handle input with
          | none => { pipe with inputs := rest }
          | some item => { pipe with inputs := rest, phase := .sending item }
      | _, _ => pipe
  | .send =>
      match pipe.phase with
      | .sending item =>
          if pipe.dropped then { pipe with phase := .ended }
          else if pipe.channel.length < task.capacity then
            { pipe with
              channel := pipe.channel ++ [item]
              phase := if task.stops item then .ended else .reading }
          else pipe
      | _ => pipe
  | .poll =>
      if pipe.dropped then pipe
      else
        match pipe.channel, pipe.phase with
        | item :: rest, _ =>
            { pipe with
              channel := rest
              count := (map pipe.count item).2
              yielded := pipe.yielded ++ [(map pipe.count item).1] }
        | [], .ended => { pipe with closed := true }
        | [], _ => pipe
  | .drop => { pipe with dropped := true, channel := [] }

def Pipe.pending (pipe : Pipe Input Item Output Count) : List Item :=
  match pipe.phase with
  | .reading => produced task pipe.inputs
  | .sending item => item :: if task.stops item then [] else produced task pipe.inputs
  | .ended => []

/-- What the consumer has seen, with what is on its way as long as it holds the stream. -/
structure Carries (whole : List Output) (pipe : Pipe Input Item Output Count) : Prop where
  seen : pipe.yielded <+: whole
  split : pipe.dropped = false →
    pipe.yielded ++ mapped map pipe.count (pipe.channel ++ pipe.pending task) = whole
  complete : pipe.closed = true → pipe.yielded = whole

variable {task map}

theorem carries_start (inputs : List Input) (count : Count) :
    Carries task map (mapped map count (produced task inputs)) (start inputs count) where
  seen := List.nil_prefix
  split := fun _ => rfl
  complete := fun closed => by simp [start] at closed

theorem Carries.task_moves {whole : List Output} {pipe after : Pipe Input Item Output Count}
    (carries : Carries task map whole pipe) (yielded : after.yielded = pipe.yielded) (count : after.count = pipe.count)
    (dropped : after.dropped = pipe.dropped) (closed : after.closed = pipe.closed)
    (onTheWay : pipe.dropped = false →
      after.channel ++ after.pending task = pipe.channel ++ pipe.pending task) : Carries task map whole after where
  seen := yielded ▸ carries.seen
  split := by
    intro held
    rw [dropped] at held
    rw [yielded, count, onTheWay held]
    exact carries.split held
  complete := by
    rw [yielded, closed]
    exact carries.complete

theorem Carries.step_read {whole : List Output} {pipe : Pipe Input Item Output Count}
    (carries : Carries task map whole pipe) : Carries task map whole (step task map pipe .read) := by
  obtain ⟨inputs, phase, channel, count, yielded, dropped, closed⟩ := pipe
  cases phase with
  | sending item => exact carries
  | ended => exact carries
  | reading =>
      cases inputs with
      | nil => exact carries.task_moves rfl rfl rfl rfl fun _ => rfl
      | cons input rest =>
          cases handled : task.handle input with
          | none =>
              simp only [step, handled]
              refine carries.task_moves rfl rfl rfl rfl ?_
              simp [Pipe.pending, produced, handled]
          | some item =>
              simp only [step, handled]
              refine carries.task_moves rfl rfl rfl rfl ?_
              simp [Pipe.pending, produced, handled]

theorem Carries.step_send {whole : List Output} {pipe : Pipe Input Item Output Count}
    (carries : Carries task map whole pipe) : Carries task map whole (step task map pipe .send) := by
  obtain ⟨inputs, phase, channel, count, yielded, dropped, closed⟩ := pipe
  cases phase with
  | reading => exact carries
  | ended => exact carries
  | sending item =>
      simp only [step]
      by_cases gone : dropped = true
      · rw [if_pos gone]
        refine carries.task_moves rfl rfl rfl rfl ?_
        intro held
        simp [gone] at held
      · by_cases room : channel.length < task.capacity
        · rw [if_neg gone, if_pos room]
          refine carries.task_moves rfl rfl rfl rfl ?_
          intro held
          cases stops : task.stops item <;> simp [Pipe.pending, stops]
        · rw [if_neg gone, if_neg room]
          exact carries

theorem Carries.step_poll {whole : List Output} {pipe : Pipe Input Item Output Count}
    (carries : Carries task map whole pipe) : Carries task map whole (step task map pipe .poll) := by
  obtain ⟨inputs, phase, channel, count, yielded, dropped, closed⟩ := pipe
  simp only [step]
  by_cases gone : dropped = true
  · rw [if_pos gone]
    exact carries
  · rw [if_neg gone]
    have split := carries.split (by simpa using gone)
    cases channel with
    | cons item rest =>
        simp only [List.cons_append, mapped] at split
        refine ⟨?_, ?_, ?_⟩
        · rw [← split]
          exact ⟨_, List.append_assoc ..⟩
        · intro _
          rw [← split]
          simp [Pipe.pending]
        · -- the consumer has not seen the end while an item is on its way
          intro sawEnd
          have all : yielded = whole := carries.complete sawEnd
          rw [all] at split
          simp at split
    | nil =>
        cases phase with
        | reading => exact carries
        | sending item => exact carries
        | ended =>
            refine ⟨carries.seen, carries.split, ?_⟩
            intro _
            simpa [Pipe.pending, mapped] using split

theorem Carries.step {whole : List Output} {pipe : Pipe Input Item Output Count}
    (carries : Carries task map whole pipe) (move : Move) : Carries task map whole (step task map pipe move) := by
  cases move with
  | read => exact carries.step_read
  | send => exact carries.step_send
  | poll => exact carries.step_poll
  | drop =>
      refine ⟨carries.seen, ?_, carries.complete⟩
      intro held
      simp [ChannelStream.step] at held

theorem carries_run (inputs : List Input) (count : Count) (moves : List Move) :
    Carries task map (mapped map count (produced task inputs))
      (Runs.run (step task map) (start inputs count) moves) := by
  apply Runs.invariant_run (Carries task map (mapped map count (produced task inputs)))
  · intro pipe move carries
    exact carries.step move
  · exact carries_start inputs count

/-- A bound on the moves that are left before the end of the stream is seen. -/
def Pipe.work (pipe : Pipe Input Item Output Count) : Nat :=
  let waiting := match pipe.phase with
    | .reading => 1
    | .sending _ => 3
    | .ended => 0
  3 * pipe.inputs.length + waiting + pipe.channel.length + if pipe.closed then 0 else 1

variable (map)

/-- A consumer that keeps the stream, or the task that feeds it, can always go on. -/
theorem exists_progress (room : 0 < task.capacity) {pipe : Pipe Input Item Output Count}
    (held : pipe.dropped = false) (unfinished : pipe.closed = false) :
    ∃ move, (step task map pipe move).work < pipe.work ∧ (step task map pipe move).dropped = false := by
  obtain ⟨inputs, phase, channel, count, yielded, dropped, closed⟩ := pipe
  simp only at held unfinished
  subst held unfinished
  cases channel with
  | cons item rest => exact ⟨.poll, by simp [step, Pipe.work], rfl⟩
  | nil =>
      cases phase with
      | ended => exact ⟨.poll, by simp [step, Pipe.work], rfl⟩
      | sending item =>
          refine ⟨.send, ?_, ?_⟩
          · cases stops : task.stops item <;> simp [step, Pipe.work, room, stops]
          · simp [step, room]
      | reading =>
          cases inputs with
          | nil => exact ⟨.read, by simp [step, Pipe.work], rfl⟩
          | cons input rest =>
              cases handled : task.handle input with
              | none => exact ⟨.read, by simp [step, Pipe.work, handled], by simp [step, handled]⟩
              | some item =>
                  refine ⟨.read, ?_, by simp [step, handled]⟩
                  simp only [step, handled, Pipe.work, List.length_cons]
                  omega

theorem exists_close (room : 0 < task.capacity) (pipe : Pipe Input Item Output Count) (held : pipe.dropped = false) :
    ∃ moves, (Runs.run (step task map) pipe moves).closed = true := by
  induction left : pipe.work using Nat.strongRecOn generalizing pipe with
  | ind left ih =>
      cases closed : pipe.closed with
      | true => exact ⟨[], closed⟩
      | false =>
          obtain ⟨move, less, still⟩ := exists_progress map room held closed
          obtain ⟨moves, ends⟩ := ih _ (by omega) _ still rfl
          exact ⟨move :: moves, ends⟩

end ChannelStream
