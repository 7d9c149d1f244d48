import LndkFormal.Async.Prog

/-!
# Interleaved tasks over one shared state

A machine says how a request starts as a program and what each critical
section does to the shared state.  A pool runs any number of such programs: at
every step a request is spawned, or one task enters its critical section, or
one task gets a reply from the outside.  Replies to requests are free, replies
to critical sections come from the shared state.

Runs are finite sequences of labels whose steps all meet a guard.  Every task
keeps the log of its own events, so facts about one program (`Reaches`) hold of
each task of a run.
-/

set_option autoImplicit false

namespace LndkFormal.Async

structure Machine (sig : Signature) (S Req α : Type) where
  start : Req → Prog sig α
  access : (op : sig.Access) → S → sig.AccessReply op × S

structure Task (sig : Signature) (Req α : Type) where
  request : Req
  log : List (Event sig)
  prog : Prog sig α

structure Pool (sig : Signature) (S Req α : Type) where
  shared : S
  tasks : List (Task sig Req α)

inductive Label (sig : Signature) (Req : Type) where
  | spawn (request : Req)
  | act (task : Nat) (event : Event sig)

variable {sig : Signature} {S Req α : Type}

inductive Step (M : Machine sig S Req α) :
    Pool sig S Req α → Label sig Req → Pool sig S Req α → Prop where
  | spawn (pool : Pool sig S Req α) (request : Req) :
      Step M pool (.spawn request)
        ⟨pool.shared, pool.tasks ++ [⟨request, [], M.start request⟩]⟩
  | access (pool : Pool sig S Req α) (i : Nat) {request : Req} {log : List (Event sig)}
      {op : sig.Access} {next : sig.AccessReply op → Prog sig α}
      (here : pool.tasks[i]? = some ⟨request, log, .access op next⟩) :
      Step M pool (.act i (.access op (M.access op pool.shared).1))
        ⟨(M.access op pool.shared).2,
          pool.tasks.set i ⟨request, log ++ [.access op (M.access op pool.shared).1],
            next (M.access op pool.shared).1⟩⟩
  | call (pool : Pool sig S Req α) (i : Nat) {request : Req} {log : List (Event sig)}
      {req : sig.Call} {next : sig.CallReply req → Prog sig α}
      (here : pool.tasks[i]? = some ⟨request, log, .call req next⟩)
      (reply : sig.CallReply req) :
      Step M pool (.act i (.call req reply))
        ⟨pool.shared, pool.tasks.set i ⟨request, log ++ [.call req reply], next reply⟩⟩

abbrev Guard (sig : Signature) (S Req α : Type) :=
  List (Label sig Req) → Pool sig S Req α → Label sig Req → Prop

/-- The runs of a machine from an empty pool, with their labels in order.  Every
step meets the guard. -/
inductive Run (M : Machine sig S Req α) (init : S) (guard : Guard sig S Req α) :
    List (Label sig Req) → Pool sig S Req α → Prop where
  | start : Run M init guard [] ⟨init, []⟩
  | step {labels : List (Label sig Req)} {pool pool' : Pool sig S Req α}
      {label : Label sig Req} (before : Run M init guard labels pool)
      (allowed : guard labels pool label) (taken : Step M pool label pool') :
      Run M init guard (labels ++ [label]) pool'

def anyStep : Guard sig S Req α := fun _ _ _ => True

variable {M : Machine sig S Req α} {init : S} {guard : Guard sig S Req α}

theorem Step.acted {pool pool' : Pool sig S Req α} {i : Nat} {event : Event sig}
    (taken : Step M pool (.act i event) pool') :
    ∃ task prog, pool.tasks[i]? = some task ∧ Reaches task.prog [event] prog ∧
      pool'.tasks = pool.tasks.set i ⟨task.request, task.log ++ [event], prog⟩ := by
  cases taken with
  | access _ here => exact ⟨_, _, here, .access _ (.refl _), rfl⟩
  | call _ here reply => exact ⟨_, _, here, .call _ (.refl _), rfl⟩

theorem Step.actor {pool pool' : Pool sig S Req α} {i : Nat} {event : Event sig}
    (taken : Step M pool (.act i event) pool') :
    ∃ task task', pool.tasks[i]? = some task ∧ pool'.tasks[i]? = some task' ∧
      task'.request = task.request ∧ task'.log = task.log ++ [event] ∧
      Reaches task.prog [event] task'.prog := by
  obtain ⟨task, prog, here, stepped, replaced⟩ := taken.acted
  have inside : i < pool.tasks.length := (List.getElem?_eq_some_iff.mp here).1
  refine ⟨task, ⟨task.request, task.log ++ [event], prog⟩, here, ?_, rfl, rfl, stepped⟩
  rw [replaced, List.getElem?_set_self inside]

theorem Step.bystander {pool pool' : Pool sig S Req α} {i j : Nat} {event : Event sig}
    (taken : Step M pool (.act i event) pool') (other : i ≠ j) :
    pool'.tasks[j]? = pool.tasks[j]? := by
  obtain ⟨task, prog, here, stepped, replaced⟩ := taken.acted
  rw [replaced, List.getElem?_set_ne other]

/-- After a step, a task is one of the old tasks, the task just spawned, or the
old task at the same place with one more event. -/
theorem Step.task_cases {pool pool' : Pool sig S Req α} {label : Label sig Req}
    (taken : Step M pool label pool') {j : Nat} {task' : Task sig Req α}
    (found : pool'.tasks[j]? = some task') :
    (pool.tasks[j]? = some task' ∧ ∀ event, label ≠ .act j event) ∨
    (∃ request, label = .spawn request ∧ task' = ⟨request, [], M.start request⟩ ∧
      pool.tasks[j]? = none) ∨
    (∃ event task, label = .act j event ∧ pool.tasks[j]? = some task ∧
      task'.request = task.request ∧ task'.log = task.log ++ [event] ∧
      Reaches task.prog [event] task'.prog) := by
  cases label with
  | spawn request =>
      cases taken
      by_cases old : j < pool.tasks.length
      · rw [List.getElem?_append_left old] at found
        exact Or.inl ⟨found, by intro event same; cases same⟩
      · rw [List.getElem?_append_right (Nat.le_of_not_lt old)] at found
        have last : j - pool.tasks.length = 0 := by
          by_contra positive
          simp [positive] at found
        simp only [last, List.getElem?_cons_zero, Option.some.injEq] at found
        exact Or.inr (Or.inl ⟨request, rfl, found.symm,
          List.getElem?_eq_none (Nat.le_of_not_lt old)⟩)
  | act i event =>
      by_cases same : i = j
      · subst same
        obtain ⟨task, task'', here, there, moved⟩ := taken.actor
        rw [there, Option.some.injEq] at found
        subst found
        exact Or.inr (Or.inr ⟨event, task, rfl, here, moved⟩)
      · rw [taken.bystander same] at found
        exact Or.inl ⟨found, by intro event equal; cases equal; exact same rfl⟩

/-- Only a critical section touches the shared state, as the machine says. -/
theorem Step.shared_cases {pool pool' : Pool sig S Req α} {label : Label sig Req}
    (taken : Step M pool label pool') :
    (pool'.shared = pool.shared ∧ ∀ i op reply, label ≠ .act i (.access op reply)) ∨
    (∃ i op, label = .act i (.access op (M.access op pool.shared).1) ∧
      pool'.shared = (M.access op pool.shared).2) := by
  cases taken with
  | spawn request => exact Or.inl ⟨rfl, by intro i op reply same; cases same⟩
  | access i here => exact Or.inr ⟨i, _, rfl, rfl⟩
  | call i here reply => exact Or.inl ⟨rfl, by intro i op reply same; cases same⟩

theorem Step.task_kept {pool pool' : Pool sig S Req α} {label : Label sig Req}
    (taken : Step M pool label pool') {j : Nat} {task : Task sig Req α}
    (found : pool.tasks[j]? = some task) :
    ∃ task', pool'.tasks[j]? = some task' ∧ task'.request = task.request ∧
      (task' = task ∨ ∃ event, label = .act j event ∧ task'.log = task.log ++ [event]) := by
  cases label with
  | spawn request =>
      have inside : j < pool.tasks.length := (List.getElem?_eq_some_iff.mp found).1
      cases taken
      exact ⟨task, by simp only [List.getElem?_append_left inside, found], rfl, Or.inl rfl⟩
  | act i event =>
      by_cases same : i = j
      · subst same
        obtain ⟨_, task', here, there, sameRequest, extended, _⟩ := taken.actor
        rw [here, Option.some.injEq] at found
        subst found
        exact ⟨task', there, sameRequest, Or.inr ⟨event, rfl, extended⟩⟩
      · exact ⟨task, by rw [taken.bystander same, found], rfl, Or.inl rfl⟩

/-! ## Runs -/

theorem Run.mono {guard' : Guard sig S Req α} {labels : List (Label sig Req)}
    {pool : Pool sig S Req α} (run : Run M init guard labels pool)
    (weaker : ∀ labels pool label, guard labels pool label → guard' labels pool label) :
    Run M init guard' labels pool := by
  induction run with
  | start => exact .start
  | step _ allowed taken ih => exact .step ih (weaker _ _ _ allowed) taken

/-- What a task meets when it is spawned, and keeps at each of its own events, every task
of a run meets. -/
theorem Run.each_task {P : Task sig Req α → Prop}
    (spawned : ∀ labels pool request, guard labels pool (.spawn request) →
      P ⟨request, [], M.start request⟩)
    (acted : ∀ labels pool i event (task task' : Task sig Req α),
      guard labels pool (.act i event) → pool.tasks[i]? = some task → P task →
      task'.request = task.request → task'.log = task.log ++ [event] →
      Reaches task.prog [event] task'.prog → P task')
    {labels : List (Label sig Req)} {pool : Pool sig S Req α}
    (run : Run M init guard labels pool) {i : Nat} {task : Task sig Req α}
    (found : pool.tasks[i]? = some task) : P task := by
  induction run generalizing task with
  | start => simp at found
  | step before allowed taken ih =>
      rcases taken.task_cases found with ⟨old, _⟩ | ⟨request, rfl, rfl, _⟩ |
        ⟨event, previous, rfl, old, sameRequest, extended, stepped⟩
      · exact ih old
      · exact spawned _ _ request allowed
      · exact acted _ _ _ event previous task allowed old (ih old) sameRequest extended stepped

theorem Run.task_reaches {labels : List (Label sig Req)} {pool : Pool sig S Req α}
    (run : Run M init guard labels pool) {i : Nat} {task : Task sig Req α}
    (found : pool.tasks[i]? = some task) :
    Reaches (M.start task.request) task.log task.prog := by
  refine run.each_task (P := fun task => Reaches (M.start task.request) task.log task.prog)
    ?_ ?_ found
  · exact fun _ _ request _ => .refl (M.start request)
  · intro _ _ _ event task task' _ _ reached sameRequest extended stepped
    rw [sameRequest, extended]
    exact reached.trans stepped

theorem Run.requests {P : Req → Prop}
    (spawned : ∀ labels pool request, guard labels pool (.spawn request) → P request)
    {labels : List (Label sig Req)} {pool : Pool sig S Req α}
    (run : Run M init guard labels pool) {i : Nat} {task : Task sig Req α}
    (found : pool.tasks[i]? = some task) : P task.request := by
  refine run.each_task (P := fun task => P task.request) spawned ?_ found
  intro _ _ _ _ task task' _ _ holds sameRequest _ _
  rw [sameRequest]
  exact holds

/-- Where the last label falls when the labels of a run are cut in two. -/
theorem append_eq_concat {β : Type} {pre post labels : List β} {label : β}
    (whole : pre ++ post = labels ++ [label]) :
    (post = [] ∧ pre = labels ++ [label]) ∨
      ∃ rest, post = rest ++ [label] ∧ labels = pre ++ rest := by
  induction post using List.reverseRecOn with
  | nil => exact Or.inl ⟨rfl, by simpa using whole⟩
  | append_singleton rest last _ =>
      rw [← List.append_assoc] at whole
      obtain ⟨same, equal⟩ := List.append_inj' whole rfl
      obtain rfl : last = label := by simpa using equal
      exact Or.inr ⟨rest, rfl, same.symm⟩

theorem Run.last_step {labels : List (Label sig Req)} {label : Label sig Req}
    {pool : Pool sig S Req α} (run : Run M init guard (labels ++ [label]) pool) :
    ∃ before, Run M init guard labels before ∧ guard labels before label ∧
      Step M before label pool := by
  generalize whole : labels ++ [label] = all at run
  cases run with
  | start => simp at whole
  | step soFar allowed taken =>
      obtain ⟨rfl, equal⟩ := List.append_inj' whole rfl
      obtain rfl := List.singleton_inj.mp equal
      exact ⟨_, soFar, allowed, taken⟩

def Pool.Keeps (pool pool' : Pool sig S Req α) : Prop :=
  ∀ (i : Nat) (task : Task sig Req α), pool.tasks[i]? = some task →
    ∃ task', pool'.tasks[i]? = some task' ∧ task'.request = task.request

theorem Step.keeps {pool pool' : Pool sig S Req α} {label : Label sig Req}
    (taken : Step M pool label pool') : pool.Keeps pool' := by
  intro i task found
  obtain ⟨task', found', same, _⟩ := taken.task_kept found
  exact ⟨task', found', same⟩

theorem Pool.Keeps.trans {first second third : Pool sig S Req α} (earlier : first.Keeps second)
    (later : second.Keeps third) : first.Keeps third := by
  intro i task found
  obtain ⟨middle, foundMiddle, same⟩ := earlier i task found
  obtain ⟨last, foundLast, same'⟩ := later i middle foundMiddle
  exact ⟨last, foundLast, same'.trans same⟩

theorem Run.step_at {pre post : List (Label sig Req)} {label : Label sig Req}
    {pool : Pool sig S Req α} (run : Run M init guard (pre ++ label :: post) pool) :
    ∃ before after, Run M init guard pre before ∧ guard pre before label ∧
      Step M before label after ∧ Run M init guard (pre ++ [label]) after ∧
      before.Keeps pool := by
  generalize whole : pre ++ label :: post = labels at run
  induction run generalizing post with
  | start => simp at whole
  | @step labels before after last soFar allowed taken ih =>
      have regroup : (pre ++ [label]) ++ post = labels ++ [last] := by simpa using whole
      rcases append_eq_concat regroup with ⟨rfl, same⟩ | ⟨rest, rfl, same⟩
      · obtain ⟨rfl, equal⟩ := List.append_inj' same rfl
        obtain rfl : label = last := by simpa using equal
        exact ⟨before, after, soFar, allowed, taken, .step soFar allowed taken, taken.keeps⟩
      · obtain ⟨first, second, reached, permitted, step, reached', kept⟩ :=
          ih (by simpa using same.symm)
        exact ⟨first, second, reached, permitted, step, reached', kept.trans taken.keeps⟩

theorem Run.act_logged {labels : List (Label sig Req)} {pool : Pool sig S Req α}
    (run : Run M init guard labels pool) {i : Nat} {event : Event sig}
    (happened : .act i event ∈ labels) :
    ∃ task, pool.tasks[i]? = some task ∧ event ∈ task.log := by
  induction run with
  | start => cases happened
  | step before allowed taken ih =>
      rw [List.mem_append, List.mem_singleton] at happened
      rcases happened with old | rfl
      · obtain ⟨task, found, logged⟩ := ih old
        obtain ⟨task', found', _, rfl | ⟨other, _, extended⟩⟩ := taken.task_kept found
        · exact ⟨task', found', logged⟩
        · exact ⟨task', found', by rw [extended]; exact List.mem_append_left _ logged⟩
      · obtain ⟨_, task', _, found', _, extended, _⟩ := taken.actor
        exact ⟨task', found', by rw [extended]; exact List.mem_append_right _ (.head _)⟩

theorem Run.invariant {I : List (Label sig Req) → Pool sig S Req α → Prop}
    (first : I [] ⟨init, []⟩)
    (kept : ∀ labels pool label pool', Run M init guard labels pool → I labels pool →
      guard labels pool label → Step M pool label pool' → I (labels ++ [label]) pool')
    {labels : List (Label sig Req)} {pool : Pool sig S Req α}
    (run : Run M init guard labels pool) : I labels pool := by
  induction run with
  | start => exact first
  | step before allowed taken ih => exact kept _ _ _ _ before ih allowed taken

theorem Pool.Keeps.refl (pool : Pool sig S Req α) : pool.Keeps pool :=
  fun _ task found => ⟨task, found, rfl⟩

theorem Run.invariant_from {I : List (Label sig Req) → Pool sig S Req α → Prop}
    (kept : ∀ labels pool label pool', Run M init guard labels pool → I labels pool →
      guard labels pool label → Step M pool label pool' → I (labels ++ [label]) pool')
    {pre post : List (Label sig Req)} {pool : Pool sig S Req α}
    (run : Run M init guard (pre ++ post) pool) :
    ∃ middle, Run M init guard pre middle ∧ middle.Keeps pool ∧
      (I pre middle → I (pre ++ post) pool) := by
  induction post using List.reverseRecOn generalizing pool with
  | nil =>
      rw [List.append_nil] at run ⊢
      exact ⟨pool, run, .refl pool, id⟩
  | append_singleton rest last ih =>
      rw [← List.append_assoc] at run ⊢
      obtain ⟨before, soFar, allowed, taken⟩ := run.last_step
      obtain ⟨middle, reached, keeps, carried⟩ := ih soFar
      exact ⟨middle, reached, keeps.trans taken.keeps,
        fun holds => kept _ _ _ _ soFar (carried holds) allowed taken⟩

def replay (M : Machine sig S Req α) : S → List (Label sig Req) → S
  | shared, [] => shared
  | shared, .act _ (.access op _) :: rest => replay M (M.access op shared).2 rest
  | shared, _ :: rest => replay M shared rest

theorem replay_append (shared : S) (first second : List (Label sig Req)) :
    replay M shared (first ++ second) = replay M (replay M shared first) second := by
  induction first generalizing shared with
  | nil => rfl
  | cons label rest ih =>
      rcases label with request | ⟨i, event⟩
      · exact ih shared
      · cases event with
        | access op reply => exact ih (M.access op shared).2
        | call request reply => exact ih shared

theorem Run.shared_eq_replay {labels : List (Label sig Req)} {pool : Pool sig S Req α}
    (run : Run M init guard labels pool) : pool.shared = replay M init labels := by
  induction run with
  | start => rfl
  | step before _ taken ih =>
      rw [replay_append, ← ih]
      cases taken with
      | spawn request => rfl
      | access i here => rfl
      | call i here reply => rfl

/-! ## Monitored tasks -/

section Monitored

variable {G : Type} {monitor : Req → Monitor sig G} {ghost : Req → G}
variable {post : Req → α → G → Prop}

def Task.ghostOf (monitor : Req → Monitor sig G) (ghost : Req → G)
    (task : Task sig Req α) : G :=
  (monitor task.request).after (ghost task.request) task.log

theorem Run.task_satisfies
    (proved : ∀ request, (M.start request).Satisfies (monitor request) (post request)
      (ghost request))
    {labels : List (Label sig Req)} {pool : Pool sig S Req α}
    (run : Run M init guard labels pool) {i : Nat} {task : Task sig Req α}
    (found : pool.tasks[i]? = some task) :
    task.prog.Satisfies (monitor task.request) (post task.request)
      (task.ghostOf monitor ghost) :=
  (satisfies_reaches (proved task.request) (run.task_reaches found)).2

theorem Run.act_demand
    (proved : ∀ request, (M.start request).Satisfies (monitor request) (post request)
      (ghost request))
    {labels : List (Label sig Req)} {pool pool' : Pool sig S Req α}
    (run : Run M init guard labels pool) {i : Nat} {event : Event sig}
    (taken : Step M pool (.act i event) pool') :
    ∃ task task', pool.tasks[i]? = some task ∧ pool'.tasks[i]? = some task' ∧
      task'.request = task.request ∧ task'.log = task.log ++ [event] ∧
      (monitor task.request).demand (task.ghostOf monitor ghost) event ∧
      task'.ghostOf monitor ghost =
        (monitor task.request).next (task.ghostOf monitor ghost) event := by
  obtain ⟨task, task', found, found', sameRequest, extended, stepped⟩ := taken.actor
  refine ⟨task, task', found, found', sameRequest, extended, ?_, ?_⟩
  · exact (satisfies_reaches (run.task_satisfies proved found) stepped).1.1
  · simp only [Task.ghostOf, sameRequest, extended, Monitor.after_append, Monitor.after_cons,
      Monitor.after_nil]

theorem Run.log_invariant
    (proved : ∀ request, (M.start request).Satisfies (monitor request) (post request)
      (ghost request))
    {I : Req → G → List (Event sig) → Prop} (first : ∀ request, I request (ghost request) [])
    (kept : ∀ request reached past event, I request reached past →
      (monitor request).demand reached event →
      I request ((monitor request).next reached event) (past ++ [event]))
    {labels : List (Label sig Req)} {pool : Pool sig S Req α}
    (run : Run M init guard labels pool) {i : Nat} {task : Task sig Req α}
    (found : pool.tasks[i]? = some task) :
    I task.request (task.ghostOf monitor ghost) task.log :=
  Monitor.along_invariant _ (first task.request) (kept task.request)
    (satisfies_reaches (proved task.request) (run.task_reaches found)).1

end Monitored

/-- One decision of a scheduler: spawn a request, or let a task go on and
answer whatever it asks for. -/
inductive Choice (sig : Signature) (Req : Type) where
  | spawn (request : Req)
  | act (task : Nat) (answer : (req : sig.Call) → sig.CallReply req)

def advance (M : Machine sig S Req α) (pool : Pool sig S Req α) :
    Choice sig Req → List (Label sig Req) × Pool sig S Req α
  | .spawn request =>
      ([.spawn request], ⟨pool.shared, pool.tasks ++ [⟨request, [], M.start request⟩]⟩)
  | .act i answer =>
      match pool.tasks[i]? with
      | some ⟨request, log, .access op next⟩ =>
          let (reply, shared) := M.access op pool.shared
          ([.act i (.access op reply)],
            ⟨shared, pool.tasks.set i ⟨request, log ++ [.access op reply], next reply⟩⟩)
      | some ⟨request, log, .call req next⟩ =>
          ([.act i (.call req (answer req))],
            ⟨pool.shared, pool.tasks.set i
              ⟨request, log ++ [.call req (answer req)], next (answer req)⟩⟩)
      | _ => ([], pool)

def schedule (M : Machine sig S Req α) :
    List (Choice sig Req) → List (Label sig Req) × Pool sig S Req α →
      List (Label sig Req) × Pool sig S Req α
  | [], state => state
  | choice :: rest, (labels, pool) =>
      schedule M rest (labels ++ (advance M pool choice).1, (advance M pool choice).2)

def Permitted (M : Machine sig S Req α) (guard : Guard sig S Req α) :
    List (Choice sig Req) → List (Label sig Req) × Pool sig S Req α → Prop
  | [], _ => True
  | choice :: rest, (labels, pool) =>
      (∀ label ∈ (advance M pool choice).1, guard labels pool label) ∧
        Permitted M guard rest
          (labels ++ (advance M pool choice).1, (advance M pool choice).2)

instance decidablePermitted
    [∀ labels pool label, Decidable (guard labels pool label)] :
    (choices : List (Choice sig Req)) → (state : List (Label sig Req) × Pool sig S Req α) →
      Decidable (Permitted M guard choices state)
  | [], _ => isTrue trivial
  | choice :: rest, (labels, pool) =>
      have := decidablePermitted rest
        (labels ++ (advance M pool choice).1, (advance M pool choice).2)
      inferInstanceAs (Decidable (_ ∧ _))

theorem advance_cases (M : Machine sig S Req α) (pool : Pool sig S Req α)
    (choice : Choice sig Req) :
    advance M pool choice = ([], pool) ∨
      ∃ label, (advance M pool choice).1 = [label] ∧
        Step M pool label (advance M pool choice).2 := by
  cases choice with
  | spawn request => exact Or.inr ⟨_, rfl, .spawn pool request⟩
  | act i answer =>
      cases found : pool.tasks[i]? with
      | none => exact Or.inl (by simp only [advance, found])
      | some task =>
          obtain ⟨request, log, prog⟩ := task
          cases prog with
          | ret value => exact Or.inl (by simp only [advance, found])
          | panic message => exact Or.inl (by simp only [advance, found])
          | access op next =>
              right
              simp only [advance, found]
              exact ⟨_, rfl, .access pool i found⟩
          | call req next =>
              right
              simp only [advance, found]
              exact ⟨_, rfl, .call pool i found (answer req)⟩

theorem advance_step {pool : Pool sig S Req α} {choice : Choice sig Req} {label : Label sig Req}
    (member : label ∈ (advance M pool choice).1) : Step M pool label (advance M pool choice).2 := by
  rcases advance_cases M pool choice with none | ⟨only, same, step⟩
  · rw [none] at member
    cases member
  · rw [same, List.mem_singleton] at member
    rw [member]
    exact step

theorem advance_run {labels : List (Label sig Req)} {pool : Pool sig S Req α}
    (run : Run M init guard labels pool) (choice : Choice sig Req)
    (allowed : ∀ label ∈ (advance M pool choice).1, guard labels pool label) :
    Run M init guard (labels ++ (advance M pool choice).1) (advance M pool choice).2 := by
  rcases advance_cases M pool choice with none | ⟨label, same, step⟩
  · rw [none, List.append_nil]
    exact run
  · rw [same] at allowed ⊢
    exact .step run (allowed label List.mem_cons_self) step

theorem schedule_run (choices : List (Choice sig Req)) {labels : List (Label sig Req)}
    {pool : Pool sig S Req α} (run : Run M init guard labels pool)
    (permitted : Permitted M guard choices (labels, pool)) :
    Run M init guard (schedule M choices (labels, pool)).1
      (schedule M choices (labels, pool)).2 := by
  induction choices generalizing labels pool with
  | nil => exact run
  | cons choice rest ih => exact ih (advance_run run choice permitted.1) permitted.2

theorem permitted_anyStep (choices : List (Choice sig Req))
    (state : List (Label sig Req) × Pool sig S Req α) : Permitted M anyStep choices state := by
  induction choices generalizing state with
  | nil => trivial
  | cons choice rest ih => exact ⟨fun _ _ => trivial, ih _⟩

end LndkFormal.Async
