import Mathlib.Logic.Function.Basic
import Pinaivu.Lib.Runs

/-!
Bounded mailboxes behind a registry. Any number of tasks open a mailbox under a key of their own, read it for a
while and take it out of the registry again. One dispatcher looks up the mailbox for an item, and in a step of
its own puts the item there unless the mailbox is full or gone.
-/

namespace Mailboxes

/-- A task that is abandoned has dropped its mailbox and left its key in the registry. -/
inductive Phase where
  | idle
  | reading
  | stopped
  | removed
  | abandoned
  deriving DecidableEq, Repr

def Phase.isRegistered : Phase → Bool
  | .reading | .stopped | .abandoned => true
  | .idle | .removed => false

def Phase.isOpen : Phase → Bool
  | .reading | .stopped => true
  | .idle | .removed | .abandoned => false

structure Box (Item : Type) where
  phase : Phase
  channel : List Item
  read : List Item

namespace Box

variable {Item : Type}

def idle : Box Item := ⟨.idle, [], []⟩

def register (box : Box Item) : Box Item := if box.phase = .idle then { box with phase := .reading } else box

def put (capacity : Nat) (box : Box Item) (item : Item) : Box Item :=
  if box.phase.isOpen = true ∧ box.channel.length < capacity then { box with channel := box.channel ++ [item] }
  else box

def receive (box : Box Item) : Box Item :=
  match box.phase, box.channel with
  | .reading, item :: rest => { box with channel := rest, read := box.read ++ [item] }
  | _, _ => box

def stop (box : Box Item) : Box Item := if box.phase = .reading then { box with phase := .stopped } else box

def remove (box : Box Item) : Box Item :=
  if box.phase = .stopped then { box with phase := .removed, channel := [] } else box

def abandon (box : Box Item) : Box Item :=
  if box.phase.isOpen = true then { box with phase := .abandoned, channel := [] } else box

end Box

/-- A mailbox with the item that the dispatcher has looked up for it. -/
structure Slot (Item : Type) extends Box Item where
  held : Option Item

inductive Move (Item : Type) where
  | register
  | look (item : Item)
  | forward
  | receive
  | stop
  | remove
  | abandon

def Move.leaves {Item : Type} : Move Item → Bool
  | .stop | .abandon => true
  | _ => false

namespace Slot

variable {Item : Type} (capacity : Nat)

def idle : Slot Item := ⟨.idle, none⟩

def update (slot : Slot Item) (change : Box Item → Box Item) : Slot Item := { slot with toBox := change slot.toBox }

/-- A move that is not next changes nothing. -/
def step (slot : Slot Item) : Move Item → Slot Item
  | .register => slot.update Box.register
  | .look item =>
      if slot.held.isNone then { slot with held := if slot.phase.isRegistered then some item else none } else slot
  | .forward =>
      match slot.held with
      | some item => ⟨slot.toBox.put capacity item, none⟩
      | none => slot
  | .receive => slot.update Box.receive
  | .stop => slot.update Box.stop
  | .remove => slot.update Box.remove
  | .abandon => slot.update Box.abandon

def taken (slot : Slot Item) : Move Item → List Item
  | .look item => if slot.held.isNone then [item] else []
  | _ => []

/-- All that has been read, and what is on its way. -/
def reached (slot : Slot Item) : List Item := slot.read ++ slot.channel ++ slot.held.toList

/-- The mailbox is not full when the dispatcher puts an item there. -/
def Room (slot : Slot Item) (move : Move Item) : Prop :=
  move = .forward → slot.held.isSome = true → slot.channel.length < capacity

theorem reached_step_sublist (slot : Slot Item) (move : Move Item) :
    ((slot.step capacity move).reached).Sublist (slot.reached ++ slot.taken move) := by
  obtain ⟨⟨phase, channel, read⟩, held⟩ := slot
  cases move with
  | register =>
      cases phase <;> simp [step, update, Box.register, reached, taken]
  | look item =>
      cases held with
      | some other => simp [step, reached, taken]
      | none => cases phase <;> simp [step, reached, taken, Phase.isRegistered]
  | forward =>
      cases held with
      | none => simp [step, reached, taken]
      | some item =>
          simp only [step, Box.put, reached, taken]
          split <;> simp
  | receive => cases phase <;> cases channel <;> simp [step, update, Box.receive, reached, taken]
  | stop => cases phase <;> simp [step, update, Box.stop, reached, taken]
  | remove => cases phase <;> simp [step, update, Box.remove, reached, taken]
  | abandon => cases phase <;> simp [step, update, Box.abandon, Phase.isOpen, reached, taken]

theorem reached_run_sublist (slot : Slot Item) (moves : List (Move Item)) :
    ((Runs.run (step capacity) slot moves).reached).Sublist
      (slot.reached ++ Runs.outputs (step capacity) taken slot moves) := by
  induction moves generalizing slot with
  | nil => simp [Runs.outputs]
  | cons move rest ih =>
      rw [Runs.run_cons, Runs.outputs, ← List.append_assoc]
      exact (ih _).trans ((reached_step_sublist capacity slot move).append (List.Sublist.refl _))

theorem reached_step_iff {slot : Slot Item} (reading : slot.phase = .reading) {move : Move Item}
    (stays : move.leaves = false) :
    (slot.step capacity move).phase = .reading ∧
      ((slot.step capacity move).reached = slot.reached ++ slot.taken move ↔ slot.Room capacity move) := by
  obtain ⟨⟨phase, channel, read⟩, held⟩ := slot
  obtain rfl : phase = .reading := reading
  cases move with
  | stop => exact Bool.noConfusion stays
  | abandon => exact Bool.noConfusion stays
  | register => simp [step, update, Box.register, reached, taken, Room]
  | remove => simp [step, update, Box.remove, reached, taken, Room]
  | receive => cases channel <;> simp [step, update, Box.receive, reached, taken, Room]
  | look item => cases held <;> simp [step, Phase.isRegistered, reached, taken, Room]
  | forward =>
      cases held with
      | none => simp [step, reached, taken, Room]
      | some item =>
          by_cases room : channel.length < capacity
          · simp [step, Box.put, Phase.isOpen, room, reached, taken, Room]
          · simp [step, Box.put, room, reached, taken, Room]

/-- A task that reads all the time has everything that was taken up for it, read or on its way, exactly when
its mailbox was never full. -/
theorem reached_run_iff {slot : Slot Item} (reading : slot.phase = .reading) {moves : List (Move Item)}
    (stays : ∀ move ∈ moves, move.leaves = false) :
    (Runs.run (step capacity) slot moves).reached = slot.reached ++ Runs.outputs (step capacity) taken slot moves ↔
      Runs.Always (step capacity) (Room capacity) slot moves := by
  induction moves generalizing slot with
  | nil => simp [Runs.outputs, Runs.Always]
  | cons move rest ih =>
      obtain ⟨still, exact⟩ := reached_step_iff capacity reading (stays move (List.mem_cons_self ..))
      have later := ih still fun other member => stays other (List.mem_cons_of_mem _ member)
      rw [Runs.run_cons, Runs.outputs, Runs.Always, ← List.append_assoc, ← exact, ← later]
      constructor
      · intro whole
        have now : (slot.step capacity move).reached = slot.reached ++ slot.taken move := by
          -- what is missing after this step is missing ever after
          refine (reached_step_sublist capacity slot move).eq_of_length_le ?_
          have bound := (reached_run_sublist capacity (slot.step capacity move) rest).length_le
          rw [whole] at bound
          simp only [List.length_append] at bound ⊢
          omega
        exact ⟨now, now ▸ whole⟩
      · rintro ⟨now, others⟩
        rw [others, now]

theorem phase_run_reading {slot : Slot Item} (reading : slot.phase = .reading) {moves : List (Move Item)}
    (stays : ∀ move ∈ moves, move.leaves = false) : (Runs.run (step capacity) slot moves).phase = .reading := by
  induction moves generalizing slot with
  | nil => exact reading
  | cons move rest ih =>
      apply ih (reached_step_iff capacity reading (stays move (List.mem_cons_self ..))).1
      exact fun other member => stays other (List.mem_cons_of_mem _ member)

def Left (read : List Item) (slot : Slot Item) : Prop :=
  slot.phase ≠ .idle ∧ slot.phase ≠ .reading ∧ slot.read = read

theorem left_step {read : List Item} {slot : Slot Item} (left : slot.Left read) (move : Move Item) :
    (slot.step capacity move).Left read := by
  obtain ⟨⟨phase, channel, seen⟩, held⟩ := slot
  obtain ⟨begun, stopped, rfl⟩ := left
  cases move with
  | look item => cases held <;> simp_all [Left, step]
  | forward =>
      cases held with
      | none => simp_all [Left, step]
      | some item =>
          simp only [step, Box.put]
          split <;> simp_all [Left]
  | _ =>
      cases phase <;> simp_all [Left, step, update, Box.register, Box.receive, Box.stop, Box.remove, Box.abandon,
        Phase.isOpen]

def Untouched (slot : Slot Item) : Prop := slot.phase = .idle → slot = idle

theorem untouched_step {slot : Slot Item} (untouched : slot.Untouched) (move : Move Item) :
    (slot.step capacity move).Untouched := by
  obtain ⟨⟨phase, channel, read⟩, held⟩ := slot
  cases phase with
  | idle =>
      rw [untouched rfl]
      cases move <;> simp [Untouched, step, update, idle, Box.idle, Box.register, Box.receive, Box.stop, Box.remove,
        Box.abandon, Phase.isRegistered, Phase.isOpen]
  | _ =>
      intro fresh
      exfalso
      revert fresh
      cases move with
      | look item => cases held <;> simp [step]
      | forward =>
          cases held with
          | none => simp [step]
          | some item =>
              simp only [step, Box.put]
              split <;> simp
      | receive => cases channel <;> simp [step, update, Box.receive]
      | _ => simp [step, update, Box.register, Box.stop, Box.remove, Box.abandon, Phase.isOpen]

end Slot

structure Office (Task Key Item : Type) where
  keyOf : Task → Key
  addressee : Item → Key
  capacity : Nat

/-- `inHand` is the item that the dispatcher has looked up and not put anywhere yet. -/
structure Mail (Task Key Item : Type) where
  registry : Key → Option Task
  box : Task → Box Item
  inHand : Option (Item × Option Task)

inductive Event (Task Item : Type) where
  | register (task : Task)
  | look (item : Item)
  | forward
  | receive (task : Task)
  | stop (task : Task)
  | remove (task : Task)
  | abandon (task : Task)

variable {Task Key Item : Type} [DecidableEq Task]

namespace Mail

def start : Mail Task Key Item := ⟨fun _ => none, fun _ => .idle, none⟩

def change (mail : Mail Task Key Item) (task : Task) (update : Box Item → Box Item) : Mail Task Key Item :=
  { mail with box := Function.update mail.box task (update (mail.box task)) }

def holder (inHand : Option (Item × Option Task)) (task : Task) : Option Item :=
  (inHand.filter fun hand => decide (hand.2 = some task)).map Prod.fst

def slot (mail : Mail Task Key Item) (task : Task) : Slot Item := ⟨mail.box task, holder mail.inHand task⟩

def reached (mail : Mail Task Key Item) (task : Task) : List Item := (mail.slot task).reached

def taken (mail : Mail Task Key Item) : Event Task Item → List Item
  | .look item => if mail.inHand.isNone then [item] else []
  | _ => []

@[simp]
theorem box_change_self (mail : Mail Task Key Item) (task : Task) (update : Box Item → Box Item) :
    (mail.change task update).box task = update (mail.box task) :=
  Function.update_self ..

theorem box_change_of_ne {task other : Task} (different : other ≠ task) (mail : Mail Task Key Item)
    (update : Box Item → Box Item) : (mail.change task update).box other = mail.box other :=
  Function.update_of_ne different ..

theorem slot_change (mail : Mail Task Key Item) (owner task : Task) (update : Box Item → Box Item) :
    (mail.change owner update).slot task =
      if owner = task then (mail.slot task).update update else mail.slot task := by
  unfold slot Slot.update
  by_cases same : owner = task
  · subst same
    rw [box_change_self, if_pos rfl]
    rfl
  · rw [box_change_of_ne (Ne.symm same), if_neg same]
    rfl

section

variable [DecidableEq Key] (office : Office Task Key Item)

def enter (mail : Mail Task Key Item) (task : Task) (owner : Option Task) : Mail Task Key Item :=
  { mail with registry := Function.update mail.registry (office.keyOf task) owner }

/-- An event that is not next for its task, or for the dispatcher, changes nothing. -/
def step (mail : Mail Task Key Item) : Event Task Item → Mail Task Key Item
  | .register task =>
      (if (mail.box task).phase = .idle then mail.enter office task (some task) else mail).change task Box.register
  | .look item =>
      if mail.inHand.isNone then { mail with inHand := some (item, mail.registry (office.addressee item)) } else mail
  | .forward =>
      match mail.inHand with
      | some (item, some task) =>
          { mail.change task fun box => box.put office.capacity item with inHand := none }
      | some (_, none) => { mail with inHand := none }
      | none => mail
  | .receive task => mail.change task Box.receive
  | .stop task => mail.change task Box.stop
  | .remove task =>
      (if (mail.box task).phase = .stopped then mail.enter office task none else mail).change task Box.remove
  | .abandon task => mail.change task Box.abandon

/-- The moves of one task in an event: its own steps, and those of the dispatcher with an item for it. -/
def moves (task : Task) (mail : Mail Task Key Item) : Event Task Item → List (Move Item)
  | .register owner => if owner = task then [.register] else []
  | .look item => if mail.inHand.isNone = true ∧ office.addressee item = office.keyOf task then [.look item] else []
  | .forward => if (holder mail.inHand task).isSome then [.forward] else []
  | .receive owner => if owner = task then [.receive] else []
  | .stop owner => if owner = task then [.stop] else []
  | .remove owner => if owner = task then [.remove] else []
  | .abandon owner => if owner = task then [.abandon] else []

/-- A key is registered exactly for the task whose mailbox stands under it. -/
def Listed (mail : Mail Task Key Item) : Prop :=
  ∀ key task, mail.registry key = some task ↔
    office.keyOf task = key ∧ (mail.box task).phase.isRegistered = true

variable {office}

omit [DecidableEq Task] in
theorem registry_enter_self (mail : Mail Task Key Item) (task : Task) (owner : Option Task) :
    (mail.enter office task owner).registry (office.keyOf task) = owner :=
  Function.update_self ..

omit [DecidableEq Task] in
theorem registry_enter_of_ne {task : Task} {key : Key} (different : key ≠ office.keyOf task)
    (mail : Mail Task Key Item) (owner : Option Task) :
    (mail.enter office task owner).registry key = mail.registry key :=
  Function.update_of_ne different ..

omit [DecidableEq Key] in
theorem Listed.change {mail : Mail Task Key Item} (listed : mail.Listed office) (owner : Task)
    {update : Box Item → Box Item}
    (same : (update (mail.box owner)).phase.isRegistered = (mail.box owner).phase.isRegistered) :
    (mail.change owner update).Listed office := by
  intro key task
  have before := listed key task
  by_cases own : task = owner
  · subst own
    rw [box_change_self, same]
    exact before
  · rw [box_change_of_ne own]
    exact before

theorem Listed.enter {mail : Mail Task Key Item} (listed : mail.Listed office)
    (distinct : Function.Injective office.keyOf) (task : Task) {update : Box Item → Box Item} {owner : Option Task}
    (entered : ∀ other, owner = some other ↔ other = task ∧ (update (mail.box task)).phase.isRegistered = true) :
    ((mail.enter office task owner).change task update).Listed office := by
  intro key other
  have before := listed key other
  have keep : ((mail.enter office task owner).change task update).registry key =
      (mail.enter office task owner).registry key := rfl
  rw [keep]
  by_cases same : key = office.keyOf task
  · subst same
    rw [registry_enter_self, entered]
    by_cases own : other = task
    · subst own
      simp [Mail.enter]
    · simp [own, distinct.eq_iff]
  · rw [registry_enter_of_ne same, before]
    by_cases own : other = task
    · subst own
      simp [Ne.symm same]
    · rw [box_change_of_ne own]
      rfl

omit [DecidableEq Task] [DecidableEq Key] in
theorem listed_start : (start : Mail Task Key Item).Listed office := by
  intro key task
  simp [start, Box.idle, Phase.isRegistered]

theorem Listed.step {mail : Mail Task Key Item} (listed : mail.Listed office)
    (distinct : Function.Injective office.keyOf) (event : Event Task Item) :
    (mail.step office event).Listed office := by
  cases event with
  | register task =>
      by_cases idle : (mail.box task).phase = .idle
      · simp only [Mail.step, idle, if_true]
        apply listed.enter distinct
        intro other
        simp [Box.register, idle, Phase.isRegistered, eq_comm]
      · simp only [Mail.step, idle, if_false]
        apply listed.change
        rw [Box.register, if_neg idle]
  | look item =>
      simp only [Mail.step]
      split <;> exact listed
  | forward =>
      rcases holds : mail.inHand with _ | ⟨item, _ | task⟩
      · simpa only [Mail.step, holds] using listed
      · simp only [Mail.step, holds]
        exact listed
      · simp only [Mail.step, holds]
        apply listed.change task
        split <;> rfl
  | receive task =>
      apply listed.change
      unfold Box.receive
      split <;> rfl
  | stop task =>
      apply listed.change
      unfold Box.stop
      split
      · rename_i reading
        simp [reading, Phase.isRegistered]
      · rfl
  | remove task =>
      by_cases stopped : (mail.box task).phase = .stopped
      · simp only [Mail.step, stopped, if_true]
        apply listed.enter distinct
        intro other
        simp [Box.remove, stopped, Phase.isRegistered]
      · simp only [Mail.step, stopped, if_false]
        apply listed.change
        rw [Box.remove, if_neg stopped]
  | abandon task =>
      apply listed.change
      unfold Box.abandon
      split
      · rename_i isOpen
        cases phase : (mail.box task).phase <;> simp_all [Phase.isRegistered, Phase.isOpen]
      · rfl

theorem slot_step {mail : Mail Task Key Item} (listed : mail.Listed office) (task : Task)
    (event : Event Task Item) :
    (mail.step office event).slot task =
      Runs.run (Slot.step office.capacity) (mail.slot task) (mail.moves office task event) := by
  cases event with
  | register owner =>
      simp only [step, moves]
      split <;> rw [slot_change] <;> split <;> rfl
  | receive owner | stop owner | abandon owner =>
      simp only [step, moves, slot_change]
      split <;> rfl
  | remove owner =>
      simp only [step, moves]
      split <;> rw [slot_change] <;> split <;> rfl
  | look item =>
      have owner := listed (office.addressee item) task
      cases holds : mail.inHand with
      | some hand => simp [step, moves, holds, slot]
      | none =>
          by_cases own : office.addressee item = office.keyOf task
          · rw [own] at owner
            cases registered : (mail.box task).phase.isRegistered <;>
              simp [step, moves, holds, own, slot, holder, Slot.step, Option.filter, owner, registered]
          · have elsewhere : mail.registry (office.addressee item) ≠ some task := by simp [owner, Ne.symm own]
            simp [step, moves, holds, own, slot, holder, Option.filter, elsewhere]
  | forward =>
      rcases holds : mail.inHand with _ | ⟨item, _ | owner⟩
      · simp [step, moves, holds, slot, holder]
      · simp [step, moves, holds, slot, holder, Option.filter]
      · by_cases same : owner = task
        · subst same
          simp [step, moves, holds, slot, holder, Slot.step, Option.filter]
        · have elsewhere := box_change_of_ne (Ne.symm same) mail fun box => box.put office.capacity item
          simp [step, moves, holds, slot, holder, same, elsewhere, Option.filter]

variable (office)

def own (task : Task) (items : List Item) : List Item :=
  items.filter fun item => decide (office.addressee item = office.keyOf task)

def Room (task : Task) (mail : Mail Task Key Item) (event : Event Task Item) : Prop :=
  event = .forward → (holder mail.inHand task).isSome = true → (mail.box task).channel.length < office.capacity

def after (events : List (Event Task Item)) : Mail Task Key Item := Runs.run (step office) start events

theorem after_append (first rest : List (Event Task Item)) :
    after office (first ++ rest) = Runs.run (step office) (after office first) rest :=
  Runs.run_append (step office) start first rest

def received (mail : Mail Task Key Item) (events : List (Event Task Item)) : List Item :=
  Runs.outputs (step office) taken mail events

variable {office}

theorem own_taken (mail : Mail Task Key Item) (task : Task) (event : Event Task Item) :
    own office task (mail.taken event) =
      Runs.outputs (Slot.step office.capacity) Slot.taken (mail.slot task) (mail.moves office task event) := by
  cases event with
  | look item =>
      cases holds : mail.inHand with
      | some hand => simp [taken, moves, holds, own, Runs.outputs]
      | none =>
          by_cases same : office.addressee item = office.keyOf task
          · simp [taken, moves, holds, own, same, Runs.outputs, Slot.taken, slot, holder]
          · simp [taken, moves, holds, own, same, Runs.outputs]
  | forward =>
      simp only [taken, moves]
      split <;> rfl
  | register owner | receive owner | stop owner | remove owner | abandon owner =>
      simp only [taken, moves]
      split <;> rfl

theorem room_moves (mail : Mail Task Key Item) (task : Task) (event : Event Task Item) :
    Room office task mail event ↔
      Runs.Always (Slot.step office.capacity) (Slot.Room office.capacity) (mail.slot task)
        (mail.moves office task event) := by
  cases event with
  | forward =>
      simp only [Room, moves]
      split
      · rename_i holds
        simp [Runs.Always, Slot.Room, slot, holds]
      · rename_i holds
        simp [Runs.Always, holds]
  | look item =>
      simp only [Room, moves]
      split <;> simp [Runs.Always, Slot.Room]
  | register owner | receive owner | stop owner | remove owner | abandon owner =>
      simp only [Room, moves]
      split <;> simp [Runs.Always, Slot.Room]

section

variable (distinct : Function.Injective office.keyOf)

include distinct

theorem listed_run {mail : Mail Task Key Item} (listed : mail.Listed office) (events : List (Event Task Item)) :
    (Runs.run (step office) mail events).Listed office :=
  Runs.invariant_run (Listed office) (fun _ event listed => listed.step distinct event) listed events

theorem listed_after (events : List (Event Task Item)) : (after office events).Listed office :=
  listed_run distinct listed_start events

theorem slot_run {mail : Mail Task Key Item} (listed : mail.Listed office) (task : Task)
    (events : List (Event Task Item)) :
    (Runs.run (step office) mail events).slot task =
      Runs.run (Slot.step office.capacity) (mail.slot task)
        (Runs.outputs (step office) (moves office task) mail events) := by
  have follows := @Runs.abstract_run_of _ _ (step office) _ _ (Slot.step office.capacity) (fun mail => mail.slot task)
    (moves office task) (Listed office) (fun _ event listed => listed.step distinct event)
  exact follows (fun _ event listed => slot_step listed task event) listed events

theorem own_received {mail : Mail Task Key Item} (listed : mail.Listed office) (task : Task)
    (events : List (Event Task Item)) :
    own office task (received office mail events) =
      Runs.outputs (Slot.step office.capacity) Slot.taken (mail.slot task)
        (Runs.outputs (step office) (moves office task) mail events) := by
  induction events generalizing mail with
  | nil => rfl
  | cons event rest ih =>
      have later := ih (listed.step distinct event)
      rw [received] at later ⊢
      rw [Runs.outputs, Runs.outputs, Runs.outputs_append, ← slot_step listed task event, ← later, ← own_taken]
      exact List.filter_append ..

theorem always_room {mail : Mail Task Key Item} (listed : mail.Listed office) (task : Task)
    (events : List (Event Task Item)) :
    Runs.Always (step office) (Room office task) mail events ↔
      Runs.Always (Slot.step office.capacity) (Slot.Room office.capacity) (mail.slot task)
        (Runs.outputs (step office) (moves office task) mail events) := by
  have agree := @Runs.abstract_always_of _ _ (step office) _ _ (Slot.step office.capacity) (fun mail => mail.slot task)
    (moves office task) (Listed office) (fun _ event listed => listed.step distinct event)
  apply agree (fun _ event listed => slot_step listed task event) _ listed events
  intro mail event _
  exact room_moves mail task event

/-- Whatever else goes on, a task gets only items with its own key, in the order in which the dispatcher took
them up and none more often than that. -/
theorem reached_sublist (task : Task) (events : List (Event Task Item)) :
    ((after office events).reached task).Sublist (own office task (received office start events)) := by
  rw [reached, after, slot_run distinct listed_start, own_received distinct listed_start]
  exact Slot.reached_run_sublist office.capacity (slot start task) _

end

theorem slot_opened (distinct : Function.Injective office.keyOf) {task : Task} {first : List (Event Task Item)}
    (unopened : ((after office first).box task).phase = .idle) :
    (after office (first ++ [.register task])).slot task = ⟨⟨.reading, [], []⟩, none⟩ := by
  have start : ((after office first).slot task).Untouched := by
    rw [after, slot_run distinct listed_start]
    apply Runs.invariant_run Slot.Untouched (fun _ move untouched => Slot.untouched_step office.capacity untouched move)
    intro _
    rfl
  rw [after, Runs.run_concat, ← after, slot_step (listed_after distinct first), start unopened]
  simp [moves, Slot.step, Slot.update, Slot.idle, Box.idle, Box.register]

theorem leaves_moves {mail : Mail Task Key Item} {task : Task} {event : Event Task Item}
    (stays : event ≠ .stop task ∧ event ≠ .abandon task) :
    ∀ move ∈ mail.moves office task event, move.leaves = false := by
  obtain ⟨stop, abandon⟩ := stays
  cases event with
  | stop owner =>
      have other : owner ≠ task := by
        rintro rfl
        exact stop rfl
      simp [moves, other]
  | abandon owner =>
      have other : owner ≠ task := by
        rintro rfl
        exact abandon rfl
      simp [moves, other]
  | register owner | look item | receive owner | remove owner =>
      simp only [moves]
      split <;> simp [Move.leaves]
  | forward =>
      simp only [moves]
      split <;> simp [Move.leaves]

theorem leaves_outputs {mail : Mail Task Key Item} {task : Task} {events : List (Event Task Item)}
    (stays : ∀ event ∈ events, event ≠ .stop task ∧ event ≠ .abandon task) :
    ∀ move ∈ Runs.outputs (step office) (moves office task) mail events, move.leaves = false := by
  induction events generalizing mail with
  | nil => simp [Runs.outputs]
  | cons event rest ih =>
      intro move member
      rcases List.mem_append.mp member with now | later
      · exact leaves_moves (stays event (List.mem_cons_self ..)) move now
      · exact ih (fun other inside => stays other (List.mem_cons_of_mem _ inside)) move later

theorem read_stopped (distinct : Function.Injective office.keyOf) {task : Task}
    {first middle : List (Event Task Item)} (unopened : ((after office first).box task).phase = .idle)
    (stays : ∀ event ∈ middle, event ≠ .stop task ∧ event ≠ .abandon task) (rest : List (Event Task Item)) :
    ((after office (first ++ [.register task] ++ middle ++ .stop task :: rest)).box task).read =
      ((after office (first ++ [.register task] ++ middle)).box task).read := by
  let before := after office (first ++ [.register task] ++ middle)
  have listed : before.Listed office := listed_after distinct _
  have reading : (before.slot task).phase = .reading := by
    have opened := slot_opened distinct unopened
    have later : before = Runs.run (step office) (after office (first ++ [.register task])) middle :=
      after_append office (first ++ [.register task]) middle
    rw [later, slot_run distinct (listed_after distinct _)]
    apply Slot.phase_run_reading office.capacity _ (leaves_outputs stays)
    rw [opened]
  have left : ((Runs.run (step office) before (.stop task :: rest)).slot task).Left (before.slot task).read := by
    rw [slot_run distinct listed, Runs.outputs, Runs.run_append]
    apply Runs.invariant_run (Slot.Left (before.slot task).read)
      (fun _ move left => Slot.left_step office.capacity left move)
    simp [moves, Slot.step, Slot.update, Box.stop, Slot.Left, reading]
  rw [after_append]
  exact left.2.2

/-- As long as the task reads, it has everything with its key that was taken up since it opened its mailbox,
read or on its way, exactly when the mailbox was never full. -/
theorem reached_iff (distinct : Function.Injective office.keyOf) {task : Task} {first middle : List (Event Task Item)}
    (unopened : ((after office first).box task).phase = .idle)
    (stays : ∀ event ∈ middle, event ≠ .stop task ∧ event ≠ .abandon task) :
    let opened := after office (first ++ [.register task])
    (Runs.run (step office) opened middle).reached task = own office task (received office opened middle) ↔
      Runs.Always (step office) (Room office task) opened middle := by
  intro opened
  have listed : opened.Listed office := listed_after distinct _
  have empty : opened.slot task = ⟨⟨.reading, [], []⟩, none⟩ := slot_opened distinct unopened
  have exact := Slot.reached_run_iff office.capacity (congrArg (fun slot => slot.phase) empty)
    (@leaves_outputs _ _ _ _ _ office opened _ _ stays)
  rw [always_room distinct listed, ← exact, reached, slot_run distinct listed, own_received distinct listed, empty]
  simp [Slot.reached]

end

end Mail

end Mailboxes
