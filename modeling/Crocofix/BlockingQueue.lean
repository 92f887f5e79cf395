/-
A queue whose consumers wait for values.

Every call holds the mutex while it looks at the queue.  A consumer that finds it empty
waits until it is notified, until it wakes up by itself or until its time is over, and
then looks again.
-/

import Crocofix.Library.Run

namespace Crocofix

/-- `m_queue` from its front to its back, and how many consumers wait for the condition,
how many have been woken up and how many have run out of time.  The values enqueued and
dequeued so far are recorded. -/
structure BlockingQueue (α : Type) where
  queue : List α
  waiting : Nat
  woken : Nat
  expired : Nat
  enqueued : List α
  dequeued : List α

namespace BlockingQueue

variable {α : Type}

def initial : BlockingQueue α := ⟨[], 0, 0, 0, [], []⟩

/-- `m_condition.notify_one`. -/
def notifyOne (queue : BlockingQueue α) : BlockingQueue α :=
  { queue with
    waiting := queue.waiting - 1
    woken := queue.woken + min queue.waiting 1 }

def enqueue (queue : BlockingQueue α) (value : α) : BlockingQueue α :=
  notifyOne { queue with
    queue := value :: queue.queue
    enqueued := queue.enqueued ++ [value] }

/-- The value at the back is moved out of the queue; nothing where it is empty. -/
def take (queue : BlockingQueue α) : Option (BlockingQueue α) :=
  match queue.queue.getLast? with
  | none => none
  | some value =>
      some { queue with
        queue := queue.queue.dropLast
        dequeued := queue.dequeued ++ [value] }

/-- A consumer that has been woken up takes a value or waits again. -/
def resume (queue : BlockingQueue α) : BlockingQueue α :=
  match take { queue with woken := queue.woken - 1 } with
  | some taken => taken
  | none => { queue with woken := queue.woken - 1, waiting := queue.waiting + 1 }

/-- A call of `try_dequeue` whose time is over takes a value or returns false. -/
def expire (queue : BlockingQueue α) : BlockingQueue α :=
  match take { queue with expired := queue.expired - 1 } with
  | some taken => taken
  | none => { queue with expired := queue.expired - 1 }

inductive Settle : BlockingQueue α → BlockingQueue α → Prop
  | resume {queue : BlockingQueue α} (some : 0 < queue.woken) : Settle queue queue.resume
  | expire {queue : BlockingQueue α} (some : 0 < queue.expired) : Settle queue queue.expire

inductive Step : BlockingQueue α → BlockingQueue α → Prop
  | enqueue (queue : BlockingQueue α) (value : α) : Step queue (queue.enqueue value)
  /-- A call of `dequeue` or `try_dequeue` that finds a value. -/
  | take {queue taken : BlockingQueue α} (found : queue.take = some taken) :
      Step queue taken
  /-- A call that finds none, and waits. -/
  | wait {queue : BlockingQueue α} (empty : queue.queue = []) :
      Step queue { queue with waiting := queue.waiting + 1 }
  | settle {queue after : BlockingQueue α} (settles : Settle queue after) :
      Step queue after
  /-- A consumer wakes up although nobody has notified it. -/
  | wake {queue : BlockingQueue α} (some : 0 < queue.waiting) :
      Step queue { queue with waiting := queue.waiting - 1, woken := queue.woken + 1 }
  /-- The time of a consumer is over, which is never that of a call of `dequeue`. -/
  | timeout {queue : BlockingQueue α} (some : 0 < queue.waiting) :
      Step queue { queue with waiting := queue.waiting - 1, expired := queue.expired + 1 }

def Reachable (queue : BlockingQueue α) : Prop := ∃ count, Run Step count initial queue

/-- The values that were enqueued were dequeued or are in the queue, the oldest at its
back, and while a consumer waits there is another one on its way to each value. -/
structure Sound (queue : BlockingQueue α) : Prop where
  inOrder : queue.dequeued ++ queue.queue.reverse = queue.enqueued
  awake : 0 < queue.waiting → queue.queue.length ≤ queue.woken + queue.expired

theorem initial_sound : Sound (initial : BlockingQueue α) := ⟨rfl, fun _ => Nat.le_refl 0⟩

theorem take_cases (queue : BlockingQueue α) :
    (queue.queue = [] ∧ queue.take = none) ∨
      ∃ front value, queue.queue = front ++ [value] ∧
        queue.take =
          some { queue with queue := front, dequeued := queue.dequeued ++ [value] } := by
  unfold take
  rcases List.eq_nil_or_concat queue.queue with empty | ⟨front, value, same⟩
  · exact .inl ⟨empty, by rw [empty]; rfl⟩
  · rw [List.concat_eq_append] at same
    exact .inr ⟨front, value, same, by rw [same]; simp⟩

theorem inOrder_take {queue : BlockingQueue α} {front : List α} {value : α}
    (inOrder : queue.dequeued ++ queue.queue.reverse = queue.enqueued)
    (same : queue.queue = front ++ [value]) :
    (queue.dequeued ++ [value]) ++ front.reverse = queue.enqueued := by
  rw [← inOrder, same, List.reverse_append, List.append_assoc]
  rfl

theorem Sound.enqueue {queue : BlockingQueue α} (sound : Sound queue) (value : α) :
    Sound (queue.enqueue value) := by
  constructor
  · change queue.dequeued ++ (value :: queue.queue).reverse = queue.enqueued ++ [value]
    rw [List.reverse_cons, ← List.append_assoc, sound.inOrder]
  · intro some
    change 0 < queue.waiting - 1 at some
    have awake := sound.awake (by omega)
    change queue.queue.length + 1 ≤ queue.woken + min queue.waiting 1 + queue.expired
    omega

theorem Sound.take {queue taken : BlockingQueue α} (sound : Sound queue)
    (found : queue.take = some taken) : Sound taken := by
  rcases queue.take_cases with ⟨-, none⟩ | ⟨front, value, same, taking⟩
  · rw [none] at found
    cases found
  · rw [taking] at found
    cases found
    refine ⟨inOrder_take sound.inOrder same, ?_⟩
    intro some
    have awake := sound.awake some
    rw [same, List.length_append, List.length_singleton] at awake
    exact Nat.le_of_succ_le awake

theorem Sound.resume {queue : BlockingQueue α} (sound : Sound queue)
    (woken : 0 < queue.woken) : Sound queue.resume := by
  unfold BlockingQueue.resume
  rcases take_cases { queue with woken := queue.woken - 1 } with
    ⟨empty, none⟩ | ⟨front, value, same, taking⟩
  · rw [none]
    refine ⟨sound.inOrder, fun _ => ?_⟩
    change queue.queue = [] at empty
    simp [empty]
  · rw [taking]
    refine ⟨inOrder_take sound.inOrder same, ?_⟩
    intro some
    change queue.queue = front ++ [value] at same
    have awake := sound.awake some
    rw [same, List.length_append, List.length_singleton] at awake
    change front.length ≤ queue.woken - 1 + queue.expired
    omega

theorem Sound.expire {queue : BlockingQueue α} (sound : Sound queue)
    (expired : 0 < queue.expired) : Sound queue.expire := by
  unfold BlockingQueue.expire
  rcases take_cases { queue with expired := queue.expired - 1 } with
    ⟨empty, none⟩ | ⟨front, value, same, taking⟩
  · rw [none]
    refine ⟨sound.inOrder, fun _ => ?_⟩
    change queue.queue = [] at empty
    simp [empty]
  · rw [taking]
    refine ⟨inOrder_take sound.inOrder same, ?_⟩
    intro some
    change queue.queue = front ++ [value] at same
    have awake := sound.awake some
    rw [same, List.length_append, List.length_singleton] at awake
    change front.length ≤ queue.woken + (queue.expired - 1)
    omega

theorem Sound.settle {queue after : BlockingQueue α} (sound : Sound queue)
    (settles : Settle queue after) : Sound after := by
  cases settles with
  | resume some => exact sound.resume some
  | expire some => exact sound.expire some

theorem Sound.step {queue after : BlockingQueue α} (sound : Sound queue)
    (step : Step queue after) : Sound after := by
  cases step with
  | enqueue value => exact sound.enqueue value
  | take found => exact sound.take found
  | wait empty =>
      refine ⟨sound.inOrder, fun _ => ?_⟩
      simp [empty]
  | settle settles => exact sound.settle settles
  | wake some =>
      refine ⟨sound.inOrder, fun _ => ?_⟩
      have awake := sound.awake some
      change queue.queue.length ≤ queue.woken + 1 + queue.expired
      omega
  | timeout some =>
      refine ⟨sound.inOrder, fun _ => ?_⟩
      have awake := sound.awake some
      change queue.queue.length ≤ queue.woken + (queue.expired + 1)
      omega

theorem Reachable.sound {queue : BlockingQueue α} (reachable : Reachable queue) :
    Sound queue := by
  obtain ⟨count, run⟩ := reachable
  exact run.keeps (fun _ _ sound step => sound.step step) initial_sound

theorem settle_lt {queue after : BlockingQueue α} (settles : Settle queue after) :
    after.woken + after.expired < queue.woken + queue.expired := by
  cases settles with
  | resume some =>
      unfold BlockingQueue.resume
      rcases take_cases { queue with woken := queue.woken - 1 } with
        ⟨-, none⟩ | ⟨front, value, -, taking⟩
      · rw [none]
        simp only
        omega
      · rw [taking]
        simp only
        omega
  | expire some =>
      unfold BlockingQueue.expire
      rcases take_cases { queue with expired := queue.expired - 1 } with
        ⟨-, none⟩ | ⟨front, value, -, taking⟩
      · rw [none]
        simp only
        omega
      · rw [taking]
        simp only
        omega

/-- In every order of calls, notifications, timeouts and wake-ups, values are dequeued
in the order in which they were enqueued, each once.  No notification is lost: once the
consumers that were woken up have got the mutex, which takes each of them one step, no
consumer waits while there is a value. -/
theorem takes_in_order {queue : BlockingQueue α} (reachable : Reachable queue) :
    queue.dequeued ++ queue.queue.reverse = queue.enqueued ∧
    (∃ count last, Run Settle count queue last ∧ Run.Stuck Settle last) ∧
    ∀ count last, Run Settle count queue last →
      count ≤ queue.woken + queue.expired ∧
      (Run.Stuck Settle last → last.queue = [] ∨ last.waiting = 0) := by
  have kept (state after : BlockingQueue α) (sound : Sound state)
      (settles : Settle state after) : Sound after := sound.settle settles
  have less (state after : BlockingQueue α) (_ : Sound state)
      (settles : Settle state after) :
      after.woken + after.expired < state.woken + state.expired := settle_lt settles
  refine ⟨reachable.sound.inOrder, ?_, ?_⟩
  · exact @Run.exists_stuck _ Settle Sound
      (fun queue => queue.woken + queue.expired) kept less _ reachable.sound
  · intro count last run
    have bound := @Run.add_work_le _ Settle Sound
      (fun queue => queue.woken + queue.expired) kept less _ _ _ run reachable.sound
    refine ⟨by omega, ?_⟩
    intro stuck
    have sound := run.keeps kept reachable.sound
    have noneWoken : last.woken = 0 :=
      Nat.eq_zero_of_not_pos fun some => stuck _ (.resume some)
    have noneExpired : last.expired = 0 :=
      Nat.eq_zero_of_not_pos fun some => stuck _ (.expire some)
    by_cases some : 0 < last.waiting
    · have awake := sound.awake some
      rw [noneWoken, noneExpired] at awake
      exact .inl (List.length_eq_zero_iff.mp (Nat.le_zero.mp awake))
    · exact .inr (Nat.eq_zero_of_not_pos some)

theorem takes_in_order_one :
    ∃ queue : BlockingQueue Nat, Reachable queue ∧ queue.woken = 1 ∧
      ∃ count last, Run Settle count queue last ∧
        (last.queue = [] ∨ last.waiting = 0) := by
  have reachable : Reachable
      (enqueue { (initial : BlockingQueue Nat) with waiting := 1 } 7) :=
    ⟨2, .next (.wait rfl) (.single (.enqueue _ 7))⟩
  obtain ⟨-, ⟨count, last, run, stuck⟩, ends⟩ := takes_in_order reachable
  exact ⟨_, reachable, rfl, count, last, run, (ends count last run).2 stuck⟩

end BlockingQueue

end Crocofix
