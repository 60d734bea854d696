import RatchetingInquiry.Library.Interference

/-! The bounded capture of a process: one thread drains each of its two pipes, and what both keep counts against one
budget. However the threads take their turns, the budget holds and what is kept of a pipe is a beginning of what the
pipe delivered; once both have ended, whether the budget was exceeded depends on what was delivered alone. -/

namespace RatchetingInquiry

inductive Pipe where
  | stdout | stderr
deriving DecidableEq

/-- What the threads share. -/
structure Capture where
  chunks : Pipe → List (List UInt8) := fun _ => []
  captured : Nat := 0
  exceeded : Bool := false

namespace Capture

/-- What was kept of a pipe. -/
def joined (capture : Capture) (name : Pipe) : List UInt8 := (capture.chunks name).flatten

/-- One chunk more of a pipe. -/
def keep (capture : Capture) (name : Pipe) (kept : List UInt8) : Capture :=
  { capture with
    chunks := fun other => if other = name then capture.chunks other ++ [kept] else capture.chunks other
    captured := capture.captured + kept.length }

/-- What a thread does under the lock with data that it has read, and whether it reads on. -/
def take (maxOutputBytes : Nat) (name : Pipe) (data : List UInt8) (capture : Capture) : Bool × Capture :=
  let remaining : Int := (maxOutputBytes : Int) - capture.captured
  let stored := if 0 < remaining then capture.keep name (data.take remaining.toNat) else capture
  if remaining < data.length then (false, { stored with exceeded := true }) else (true, stored)

end Capture

/-- The thread that drains a pipe, given what its reads return. -/
def drain (maxOutputBytes : Nat) (name : Pipe) : List (List UInt8) → Client Capture Empty Unit
  | [] => pure ()
  | data :: later =>
    if data = [] then pure ()
    else do
      let goesOn ← Client.update (fun capture =>
        (.ok (capture.take maxOutputBytes name data).1, (capture.take maxOutputBytes name data).2))
      if goesOn then drain maxOutputBytes name later else pure ()

/-- The threads of a process, one for each pipe. -/
def drains (maxOutputBytes : Nat) (reads : Pipe → List (List UInt8)) : List (Client Capture Empty Unit) :=
  [drain maxOutputBytes .stdout (reads .stdout), drain maxOutputBytes .stderr (reads .stderr)]

structure BoundedProcessResult where
  exitCode : Option Int
  stdout : List UInt8
  stderr : List UInt8
  timedOut : Bool := false
  outputExceeded : Bool := false
deriving DecidableEq

/-- How a process went: what the reads of its pipes return, the turns that the threads take before the result is put
together, whether the wait for it timed out, and its return code. -/
structure ProcessRun where
  reads : Pipe → List (List UInt8)
  turns : List Nat
  timedOut : Bool
  returnCode : Int

/-- `_run_bounded_process`. -/
def runBoundedProcess (maxOutputBytes : Nat) (run : ProcessRun) : BoundedProcessResult :=
  let capture := (run.turns.foldl Client.turnOf ({}, drains maxOutputBytes run.reads)).1
  { exitCode := if run.timedOut || capture.exceeded then none else some run.returnCode
    stdout := capture.joined .stdout
    stderr := capture.joined .stderr
    timedOut := run.timedOut
    outputExceeded := capture.exceeded }

/-! The invariant of the threads. -/

/-- What a pipe delivers: the reads up to the first empty one, which is its end. -/
def delivered (reads : List (List UInt8)) : List UInt8 := (reads.takeWhile (· ≠ [])).flatten

section
variable {maxOutputBytes : Nat} {name : Pipe} {data : List UInt8} {capture : Capture}

/-- With room left in the budget, a thread keeps what the room admits. -/
theorem take_spec (name : Pipe) (data : List UInt8) (bounded : capture.captured ≤ maxOutputBytes) :
    (capture.take maxOutputBytes name data).2.joined name =
        capture.joined name ++ data.take (maxOutputBytes - capture.captured) ∧
      (∀ other, other ≠ name → (capture.take maxOutputBytes name data).2.joined other = capture.joined other) ∧
      (capture.take maxOutputBytes name data).2.captured =
        capture.captured + min (maxOutputBytes - capture.captured) data.length ∧
      ((capture.take maxOutputBytes name data).1 = true ↔ data.length ≤ maxOutputBytes - capture.captured) ∧
      ((capture.take maxOutputBytes name data).2.exceeded = true ↔
        capture.exceeded = true ∨ maxOutputBytes - capture.captured < data.length) := by
  obtain ⟨remaining, same⟩ : ∃ remaining : Nat, (maxOutputBytes : Int) - capture.captured = remaining :=
    ⟨maxOutputBytes - capture.captured, by omega⟩
  have room : maxOutputBytes - capture.captured = remaining := by omega
  unfold Capture.take
  rw [same, room]
  by_cases positive : 0 < remaining
  · by_cases long : remaining < data.length
    · simp [positive, long, Capture.keep, Capture.joined]
      intro other apart
      simp [apart]
    · have short : data.length ≤ remaining := by omega
      simp [positive, short, Capture.keep, Capture.joined, not_lt_of_ge short]
      intro other apart
      simp [apart]
  · obtain rfl : remaining = 0 := by omega
    by_cases some_ : data = []
    · simp [some_, Capture.joined]
    · have long : 0 < data.length := List.length_pos_iff.mpr some_
      simp [Capture.joined, long]
      omega

/-- Where a thread is: it has kept all of what it read and reads on, or it has stopped at the end of the budget. -/
inductive DrainAt (maxOutputBytes : Nat) (name : Pipe) (reads : List (List UInt8)) (capture : Capture) :
    Client Capture Empty Unit → Prop
  | reading (taken rest : List (List UInt8)) (whole : reads = taken ++ rest) (nonempty : ∀ data ∈ taken, data ≠ [])
      (all : capture.joined name = taken.flatten) : DrainAt maxOutputBytes name reads capture
        (drain maxOutputBytes name rest)
  | stopped (exceeded : capture.exceeded = true) (part : capture.joined name <+: delivered reads) :
      DrainAt maxOutputBytes name reads capture (.done (.ok ()))

variable {reads : List (List UInt8)} {thread : Client Capture Empty Unit}

theorem delivered_append {taken rest : List (List UInt8)} (nonempty : ∀ data ∈ taken, data ≠ []) :
    delivered (taken ++ rest) = taken.flatten ++ delivered rest := by
  unfold delivered
  rw [List.takeWhile_append_of_pos (by simpa using nonempty), List.flatten_append]

theorem DrainAt.part (drains : DrainAt maxOutputBytes name reads capture thread) :
    capture.joined name <+: delivered reads := by
  cases drains with
  | reading taken rest whole nonempty all =>
    rw [all, whole, delivered_append nonempty]
    exact List.prefix_append _ _
  | stopped _ part => exact part

/-- A thread that has ended has kept all that its pipe delivered, unless the budget was exceeded. -/
theorem DrainAt.complete {outcome : Except Empty Unit}
    (drains : DrainAt maxOutputBytes name reads capture (.done outcome)) :
    capture.exceeded = true ∨ capture.joined name = delivered reads := by
  generalize ended : Client.done outcome = last at drains
  cases drains with
  | stopped exceeded _ => exact .inl exceeded
  | reading taken rest whole nonempty all =>
    right
    rw [all, whole, delivered_append nonempty]
    cases rest with
    | nil => simp [delivered]
    | cons data later =>
      unfold drain at ended
      split at ended
      next empty => simp [delivered, empty]
      next => cases ended

/-- A thread stays where it is while another one goes on. -/
theorem DrainAt.aside {next : Capture} (drains : DrainAt maxOutputBytes name reads capture thread)
    (same : next.joined name = capture.joined name) (still : capture.exceeded = true → next.exceeded = true) :
    DrainAt maxOutputBytes name reads next thread := by
  cases drains with
  | reading taken rest whole nonempty all => exact .reading taken rest whole nonempty (same.trans all)
  | stopped exceeded part => exact .stopped (still exceeded) (same ▸ part)

/-- Where a thread is that operates: it has data, and goes on by what it does with them under the lock. -/
theorem DrainAt.operating {effect : Capture → Capture} {rest : Capture → Client Capture Empty Unit}
    (drains : DrainAt maxOutputBytes name reads capture (.operate effect rest)) :
    ∃ taken data later, reads = taken ++ data :: later ∧ (∀ earlier ∈ taken, earlier ≠ []) ∧ data ≠ [] ∧
      capture.joined name = taken.flatten ∧ effect capture = (capture.take maxOutputBytes name data).2 ∧
      rest capture = if (capture.take maxOutputBytes name data).1 then drain maxOutputBytes name later
        else .done (.ok ()) := by
  generalize operates : Client.operate effect rest = client at drains
  cases drains with
  | stopped => cases operates
  | reading taken unread whole nonempty all =>
    cases unread with
    | nil => cases operates
    | cons data later =>
      unfold drain at operates
      split at operates
      next => cases operates
      next something =>
        obtain ⟨rfl, rfl⟩ := Client.operate.inj operates
        refine ⟨taken, data, later, whole, nonempty, something, all, rfl, ?_⟩
        change (if (capture.take maxOutputBytes name data).1 = true then drain maxOutputBytes name later
          else pure ()) = _
        rfl

end

/-- Where both threads are, and what they have kept together. -/
structure DrainsAt (maxOutputBytes : Nat) (reads : Pipe → List (List UInt8)) (capture : Capture)
    (threads : Pipe → Client Capture Empty Unit) : Prop where
  each : ∀ name, DrainAt maxOutputBytes name (reads name) capture (threads name)
  counted : capture.captured = (capture.joined .stdout).length + (capture.joined .stderr).length
  bounded : capture.captured ≤ maxOutputBytes
  exhausted : capture.exceeded = true → capture.captured = maxOutputBytes ∧
    maxOutputBytes < (delivered (reads .stdout)).length + (delivered (reads .stderr)).length

/-- Both threads, the one for the standard output first. -/
def both (threads : Pipe → Client Capture Empty Unit) : List (Client Capture Empty Unit) :=
  [threads .stdout, threads .stderr]

section
variable {maxOutputBytes : Nat} {reads : Pipe → List (List UInt8)} {capture next : Capture}
  {threads : Pipe → Client Capture Empty Unit} {rest : List (Client Capture Empty Unit)}

theorem drainsAt_start : DrainsAt maxOutputBytes reads {} (fun name => drain maxOutputBytes name (reads name)) where
  each name := .reading [] (reads name) rfl (by simp) rfl
  counted := rfl
  bounded := Nat.zero_le _
  exhausted := by
    intro impossible
    cases impossible

/-- The turn of one of the threads. -/
theorem turn_both (turn : Client.Turn (capture, both threads) (next, rest)) : ∃ name effect goesOn,
    threads name = .operate effect goesOn ∧ next = effect capture ∧
      rest = both (fun other => if other = name then goesOn capture else threads other) := by
  generalize listed : both threads = clients at turn
  cases turn with
  | operation _ before after effect goesOn =>
    cases before with
    | nil =>
      obtain ⟨first, second⟩ := List.cons.inj listed
      exact ⟨.stdout, effect, goesOn, first, rfl, by simp [both, second]⟩
    | cons earlier before =>
      obtain ⟨first, second⟩ := List.cons.inj listed
      cases before with
      | nil =>
        obtain ⟨operates, nothing⟩ := List.cons.inj second
        exact ⟨.stderr, effect, goesOn, operates, rfl, by simp [both, first, nothing]⟩
      | cons another before =>
        have long := congrArg List.length second
        simp at long

/-- What both pipes delivered. -/
def deliveredLength (reads : Pipe → List (List UInt8)) : Nat :=
  (delivered (reads .stdout)).length + (delivered (reads .stderr)).length

theorem DrainsAt.turn (before : DrainsAt maxOutputBytes reads capture threads)
    (turn : Client.Turn (capture, both threads) (next, rest)) :
    ∃ moved, rest = both moved ∧ DrainsAt maxOutputBytes reads next moved := by
  obtain ⟨name, effect, goesOn, operates, rfl, rfl⟩ := turn_both turn
  refine ⟨_, rfl, ?_⟩
  have thread := before.each name
  rw [operates] at thread
  obtain ⟨taken, data, later, whole, nonempty, something, all, acts, goes⟩ := thread.operating
  obtain ⟨kept, others, count, onward, surplus⟩ := take_spec name data before.bounded
  rw [acts]
  have positive : 0 < data.length := List.length_pos_iff.mpr something
  have bounded := before.bounded
  have delivers : delivered (reads name) = taken.flatten ++ (data ++ delivered later) := by
    rw [whole, delivered_append nonempty]
    simp [delivered, something]
  have still : capture.exceeded = true → (capture.take maxOutputBytes name data).2.exceeded = true :=
    fun exceeded => surplus.mpr (.inl exceeded)
  refine ⟨?_, ?_, ?_, ?_⟩
  · intro other
    split
    next same =>
      rw [same, goes]
      split
      next continues =>
        have short := onward.mp continues
        rw [List.take_of_length_le short] at kept
        refine .reading (taken ++ [data]) later (by simp [whole]) ?_ (by simp [kept, all])
        intro earlier member
        rcases List.mem_append.mp member with first | last
        · exact nonempty earlier first
        · rw [List.mem_singleton.mp last]
          exact something
      next halts =>
        have long : maxOutputBytes - capture.captured < data.length := by
          by_contra short
          exact halts (onward.mpr (not_lt.mp short))
        refine .stopped (surplus.mpr (.inr long)) ?_
        rw [kept, all, delivers]
        exact List.prefix_append_right_inj _ |>.mpr ((List.take_prefix _ _).trans (List.prefix_append _ _))
    next apart => exact (before.each other).aside (others other apart) still
  · have joined : ((capture.take maxOutputBytes name data).2.joined name).length =
        (capture.joined name).length + min (maxOutputBytes - capture.captured) data.length := by
      rw [kept, List.length_append, List.length_take]
    have counted := before.counted
    cases name with
    | stdout =>
      rw [count, joined, others .stderr (by decide)]
      omega
    | stderr =>
      rw [count, joined, others .stdout (by decide)]
      omega
  · omega
  · intro exceeded
    have long : maxOutputBytes - capture.captured < data.length := by
      rcases surplus.mp exceeded with earlier | long
      · have full := (before.exhausted earlier).1
        omega
      · exact long
    refine ⟨by omega, ?_⟩
    -- What the pipe delivered reaches beyond what there was room for.
    have counted := before.counted
    have beyond : (capture.joined name).length + data.length ≤ (delivered (reads name)).length := by
      rw [all, delivers, List.length_append, List.length_append]
      omega
    cases name with
    | stdout =>
      have other := (before.each .stderr).part.length_le
      omega
    | stderr =>
      have other := (before.each .stdout).part.length_le
      omega

/-- Every order of the turns keeps the threads where they should be. -/
theorem drainsAt_run (run : Relation.ReflTransGen Client.Turn ({}, drains maxOutputBytes reads) (capture, rest)) :
    ∃ threads, rest = both threads ∧ DrainsAt maxOutputBytes reads capture threads := by
  generalize ends : (capture, rest) = system at run
  induction run generalizing capture rest with
  | refl =>
    obtain ⟨rfl, rfl⟩ := Prod.mk.inj ends
    exact ⟨_, rfl, drainsAt_start⟩
  | @tail middle _ _ last ih =>
    obtain ⟨between, remaining⟩ := middle
    obtain ⟨threads, rfl, before⟩ := ih rfl
    rw [← ends] at last
    exact before.turn last

/-- Once both threads have ended, nothing of either pipe is missing unless the budget was exceeded. -/
theorem DrainsAt.complete (now : DrainsAt maxOutputBytes reads capture threads)
    (ended : ∀ thread ∈ both threads, ∃ outcome, thread = .done outcome) (kept : capture.exceeded = false)
    (name : Pipe) : capture.joined name = delivered (reads name) := by
  obtain ⟨outcome, done⟩ := ended (threads name) (by cases name <;> simp [both])
  have thread := now.each name
  rw [done] at thread
  rcases thread.complete with exceeded | whole
  · rw [kept] at exceeded
    cases exceeded
  · exact whole

/-- In every order of the turns of the two threads: what is kept stays within the budget, and of each pipe it is a
beginning of what the pipe delivered. Once both threads have ended, the budget was exceeded if and only if the pipes
delivered more than it admits; then it is used up, and otherwise nothing of either pipe is missing. -/
theorem drains_bounded (run : Relation.ReflTransGen Client.Turn ({}, drains maxOutputBytes reads) (capture, rest)) :
    (capture.joined .stdout).length + (capture.joined .stderr).length ≤ maxOutputBytes ∧
    (∀ name, capture.joined name <+: delivered (reads name)) ∧
    ((∀ thread ∈ rest, ∃ outcome, thread = .done outcome) →
      (capture.exceeded = true ↔ maxOutputBytes < deliveredLength reads) ∧
      (capture.joined .stdout).length + (capture.joined .stderr).length = min maxOutputBytes (deliveredLength reads) ∧
      (capture.exceeded = false → ∀ name, capture.joined name = delivered (reads name))) := by
  obtain ⟨threads, rfl, now⟩ := drainsAt_run run
  have counted := now.counted
  have bounded := now.bounded
  refine ⟨by omega, fun name => (now.each name).part, ?_⟩
  intro ended
  unfold deliveredLength
  cases verdict : capture.exceeded with
  | true =>
    obtain ⟨full, beyond⟩ := now.exhausted verdict
    refine ⟨⟨fun _ => beyond, fun _ => rfl⟩, by omega, ?_⟩
    intro impossible
    cases impossible
  | false =>
    have whole := now.complete ended verdict
    rw [whole .stdout, whole .stderr] at counted ⊢
    refine ⟨?_, by omega, fun _ => whole⟩
    constructor
    · intro impossible
      cases impossible
    · intro beyond
      omega

/-- The output of a bounded process stays within its budget. -/
theorem runBoundedProcess_bounded (maxOutputBytes : Nat) (run : ProcessRun) :
    (runBoundedProcess maxOutputBytes run).stdout.length + (runBoundedProcess maxOutputBytes run).stderr.length ≤
      maxOutputBytes := by
  obtain ⟨_, -, now⟩ := drainsAt_run (Client.turnsOf_turns ({}, drains maxOutputBytes run.reads) run.turns)
  have counted := now.counted
  have bounded := now.bounded
  unfold runBoundedProcess
  dsimp only
  omega

end

namespace Worked

/-- Two pipes that deliver four bytes. -/
def fourBytes (name : Pipe) : List (List UInt8) := if name = .stdout then [[1, 2]] else [[3, 4]]

/-- Both of them drained into a budget of three. -/
def shortBudget : Capture × List (Client Capture Empty Unit) := [1, 0].foldl Client.turnOf ({}, drains 3 fourBytes)

/-- The thread that comes second keeps one byte of its two. -/
theorem shortBudget_exceeded : shortBudget.1.joined .stdout = [1] ∧ shortBudget.1.joined .stderr = [3, 4] ∧
    (shortBudget.1.exceeded = true ↔ 3 < deliveredLength fourBytes) := by
  have ended : ∀ thread ∈ shortBudget.2, ∃ outcome, thread = Client.done outcome := by
    intro thread member
    change thread ∈ [Client.done (.ok ()), Client.done (.ok ())] at member
    exact ⟨.ok (), by simpa using member⟩
  obtain ⟨-, -, settled⟩ := drains_bounded (Client.turnsOf_turns ({}, drains 3 fourBytes) [1, 0])
  exact ⟨by decide, by decide, (settled ended).1⟩

end Worked

end RatchetingInquiry
