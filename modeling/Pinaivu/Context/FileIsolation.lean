import Pinaivu.Context.StoreCore
import Pinaivu.Lib.Runs

/-!
What the calls on one session change for another, in the store that keeps one file a
session.
-/

namespace Pinaivu.Context.LocalFileContextStore

inductive Call where
  | getMessages (sessionId : String) (now : Nat)
  | append (sessionId userMsg asstMsg : String) (now : Nat)
  | clear (sessionId : String)
  | evictExpired (now : Nat)

def Call.sessionId : Call → Option String
  | .getMessages sessionId _ | .append sessionId _ _ _ | .clear sessionId => some sessionId
  | .evictExpired _ => none

section

variable (isAlphanumeric : Char → Bool) (limits : Limits)

def step (directory : Directory) : Call → Directory
  | .getMessages sessionId now => (getMessages isAlphanumeric limits directory sessionId now).1
  | .append sessionId userMsg asstMsg now => append isAlphanumeric limits directory sessionId userMsg asstMsg now
  | .clear sessionId => clear isAlphanumeric directory sessionId
  | .evictExpired now => if 0 < limits.ttlSecs then evictExpired limits directory now else directory

def returned (target : String) (directory : Directory) : Call → List (List StoredMessage)
  | .getMessages sessionId now =>
      if sessionId = target then [(getMessages isAlphanumeric limits directory sessionId now).2] else []
  | _ => []

def reads (target : String) (directory : Directory) (calls : List Call) : List (List StoredMessage) :=
  Runs.outputs (step isAlphanumeric limits) (returned isAlphanumeric limits target) directory calls

/-- The reads of one session are those of the run without the calls on the other. -/
def Isolated (source target : String) : Prop :=
  ∀ directory calls, reads isAlphanumeric limits target directory calls =
    reads isAlphanumeric limits target directory (calls.filter fun call => call.sessionId ≠ some source)

variable {isAlphanumeric limits}

theorem getMessages_other {directory : Directory} {sessionId name : String} (now : Nat)
    (other : name ≠ path isAlphanumeric sessionId) :
    (getMessages isAlphanumeric limits directory sessionId now).1 name = directory name := by
  rw [getMessages]
  split
  · exact Function.update_of_ne other none directory
  · rfl

theorem step_other {directory : Directory} {call : Call} {sessionId name : String}
    (on : call.sessionId = some sessionId) (other : name ≠ path isAlphanumeric sessionId) :
    step isAlphanumeric limits directory call name = directory name := by
  cases call with
  | getMessages called now =>
      obtain rfl := Option.some.inj on
      exact getMessages_other now other
  | append called userMsg asstMsg now =>
      obtain rfl := Option.some.inj on
      exact Function.update_of_ne other _ directory
  | clear called =>
      obtain rfl := Option.some.inj on
      exact Function.update_of_ne other none directory
  | evictExpired now => contradiction

theorem readMsgs_congr {first second : Directory} {sessionId : String}
    (same : first (path isAlphanumeric sessionId) = second (path isAlphanumeric sessionId)) :
    readMsgs isAlphanumeric first sessionId = readMsgs isAlphanumeric second sessionId := by
  rw [readMsgs, readMsgs, same]

theorem getMessages_congr {first second : Directory} {sessionId : String} (now : Nat)
    (same : first (path isAlphanumeric sessionId) = second (path isAlphanumeric sessionId)) :
    (getMessages isAlphanumeric limits first sessionId now).1 (path isAlphanumeric sessionId) =
        (getMessages isAlphanumeric limits second sessionId now).1 (path isAlphanumeric sessionId) ∧
      (getMessages isAlphanumeric limits first sessionId now).2 =
        (getMessages isAlphanumeric limits second sessionId now).2 := by
  simp only [getMessages, same]
  split
  · simp
  · exact ⟨same, readMsgs_congr same⟩

theorem step_congr {first second : Directory} {name : String} (same : first name = second name) (call : Call) :
    step isAlphanumeric limits first call name = step isAlphanumeric limits second call name := by
  cases on : call.sessionId with
  | some sessionId =>
      by_cases other : name = path isAlphanumeric sessionId
      · subst other
        cases call with
        | getMessages called now =>
            obtain rfl := Option.some.inj on
            exact (getMessages_congr now same).1
        | append called userMsg asstMsg now =>
            obtain rfl := Option.some.inj on
            simp [step, append, writeMsgs, readMsgs_congr same]
        | clear called =>
            obtain rfl := Option.some.inj on
            simp [step, clear]
        | evictExpired now => contradiction
      · rw [step_other on other, step_other on other, same]
  | none =>
      cases call with
      | evictExpired now =>
          rw [step, step]
          split
          · rw [evictExpired, evictExpired, same]
          · exact same
      | _ => contradiction

theorem returned_congr {first second : Directory} {target : String}
    (same : first (path isAlphanumeric target) = second (path isAlphanumeric target)) (call : Call) :
    returned isAlphanumeric limits target first call = returned isAlphanumeric limits target second call := by
  cases call with
  | getMessages sessionId now =>
      rw [returned, returned]
      split
      next reads =>
        subst reads
        rw [(getMessages_congr now same).2]
      next => rfl
  | _ => rfl

theorem returned_other {directory : Directory} {target : String} {call : Call} {sessionId : String}
    (on : call.sessionId = some sessionId) (other : sessionId ≠ target) :
    returned isAlphanumeric limits target directory call = [] := by
  cases call with
  | getMessages called now =>
      obtain rfl := Option.some.inj on
      exact if_neg other
  | _ => rfl

theorem isolated_of_paths {source target : String}
    (apart : path isAlphanumeric source ≠ path isAlphanumeric target) :
    Isolated isAlphanumeric limits source target := by
  intro directory calls
  refine Runs.outputs_filter (fun call => decide (call.sessionId ≠ some source))
    (fun (first second : Directory) => first (path isAlphanumeric target) = second (path isAlphanumeric target))
    ?_ ?_ rfl calls
  · intro first second call hidden same
    have on : call.sessionId = some source := by simpa using hidden
    have other : source ≠ target := fun equal => apart (congrArg _ equal)
    exact ⟨(step_other on apart.symm).trans same, returned_other on other⟩
  · intro first second call same
    exact ⟨step_congr same call, returned_congr same call⟩

theorem trim_turn_ne_nil (userMsg asstMsg : String) : limits.trim (turn userMsg asstMsg) ≠ [] := by
  rw [Limits.trim]
  split
  next excess =>
    intro empty
    have short := congrArg List.length empty
    simp only [turn, List.length_drop, List.length_cons, List.length_nil] at excess short
    omega
  next => simp [turn]

theorem getMessages_append {source target : String}
    (shared : path isAlphanumeric source = path isAlphanumeric target) (userMsg asstMsg : String) (now : Nat) :
    (getMessages isAlphanumeric limits
        (append isAlphanumeric limits (fun _ => none) source userMsg asstMsg now) target now).2 =
      limits.trim (turn userMsg asstMsg) := by
  have none : readMsgs isAlphanumeric (fun _ => none) source = [] := rfl
  rw [getMessages, append, none, List.nil_append, writeMsgs, shared]
  simp [readMsgs, decodeFile_messages]

theorem not_isolated_of_path {source target : String}
    (shared : path isAlphanumeric source = path isAlphanumeric target) :
    ¬ Isolated isAlphanumeric limits source target := by
  intro isolated
  have same := isolated (fun _ => none) [.append source "hello" "hi there" 0, .getMessages target 0]
  have sees : reads isAlphanumeric limits target (fun _ => none)
      [.append source "hello" "hi there" 0, .getMessages target 0] = [limits.trim (turn "hello" "hi there")] := by
    simp [reads, Runs.outputs, returned, step, getMessages_append shared]
  rw [sees] at same
  by_cases equal : target = source
  · simp [Call.sessionId, equal, reads, Runs.outputs] at same
  · have empty : (getMessages isAlphanumeric limits (fun _ => none) target 0).2 = [] := by
      simp [getMessages, readMsgs]
    simp [Call.sessionId, equal, reads, Runs.outputs, returned, empty] at same
    exact trim_turn_ne_nil _ _ same

variable (isAlphanumeric limits)

/-- No run of calls on one session shows in what another reads exactly when their ids differ in the
characters that the file names keep. -/
theorem isolated_iff (source target : String) :
    Isolated isAlphanumeric limits source target ↔
      path isAlphanumeric source ≠ path isAlphanumeric target := by
  exact ⟨fun isolated shared => not_isolated_of_path shared isolated, isolated_of_paths⟩

end

theorem underscore_not_isolated : ¬ Isolated Char.isAlphanum ⟨100, 0⟩ "user_1" "user1" := by
  exact not_isolated_of_path (by decide)

end Pinaivu.Context.LocalFileContextStore
