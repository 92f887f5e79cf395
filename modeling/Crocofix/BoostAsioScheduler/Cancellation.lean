/-
What a cancelled callback can still do.

A cancelled callback is quiet when neither a handler nor a function of it was
queued at the time.  Every other callback keeps a timer or an entry in the queue
until it is invoked, as long as no handler erases the timer of another.
-/

import Crocofix.BoostAsioScheduler

namespace Crocofix

namespace BoostAsioScheduler

/-! ### What the history says of a callback -/

inductive Standing
  | unknown
  | live (kind : Kind)
  | cancelled
  | done
deriving DecidableEq, Repr

/-- A relative callback is done with when it was invoked. -/
def standing (token : CancellationToken) : List Note → Standing
  | [] => .unknown
  | .scheduled kind other :: rest =>
      if other = token then .live kind else standing token rest
  | .cancelled other :: rest =>
      if other = token then .cancelled else standing token rest
  | .invoked other :: rest =>
      if other = token ∧ standing token rest = .live .relative then .done
      else standing token rest

/-- The callback is still to come: its timer waits, or what follows is queued. -/
inductive Pending (scheduler : BoostAsioScheduler) (kind : Kind)
    (token : CancellationToken) : Prop
  | waits (waiting : scheduler.waiting token = some kind)
  | expired (queued : .wait kind token false ∈ scheduler.queue)
  | posted (relative : kind = .relative)
      (queued : .callback token ∈ scheduler.queue)

/-- No callback is invoked once it is cancelled, and every other callback is
invoked or still to come. -/
structure Upholds (scheduler : BoostAsioScheduler) : Prop where
  silent : ∀ later token earlier,
    scheduler.history = later ++ .invoked token :: earlier →
      standing token earlier ≠ .cancelled
  pending : ∀ token kind, standing token scheduler.history = .live kind →
    scheduler.Pending kind token

/-- A callback is not cancelled between the expiry of its timer and its call,
and the handler of a relative timer reads its own token, or one of no timer. -/
def Sound (scheduler : BoostAsioScheduler) : Event → Prop
  | .cancel token =>
      (∀ kind, .wait kind token false ∉ scheduler.queue) ∧
        .callback token ∉ scheduler.queue
  | .run (.wait .relative token _) erased =>
      erased = token ∨ scheduler.timers erased = none
  | _ => True

/-! ### Timers and the queue -/

section operations

variable {scheduler : BoostAsioScheduler} {token other : CancellationToken}

@[simp] theorem waiting_store_self (timer : Option Timer) :
    (scheduler.store token timer).waiting token = timer.bind Timer.wait := by
  simp [waiting, store]

@[simp] theorem waiting_store_of_ne (timer : Option Timer) (differs : other ≠ token) :
    (scheduler.store token timer).waiting other = scheduler.waiting other := by
  simp [waiting, store, differs]

theorem complete_of_idle (aborted : Bool) (idle : scheduler.waiting token = none) :
    scheduler.complete aborted token = scheduler := by
  unfold complete
  rw [idle]

theorem complete_of_waiting (aborted : Bool) {kind : Kind}
    (waits : scheduler.waiting token = some kind) :
    scheduler.complete aborted token =
      (scheduler.store token (some ⟨none⟩)).post (.wait kind token aborted) := by
  unfold complete
  rw [waits]

theorem waiting_complete_self (aborted : Bool) :
    (scheduler.complete aborted token).waiting token = none := by
  cases waits : scheduler.waiting token with
  | none => rwa [complete_of_idle aborted waits]
  | some kind =>
      rw [complete_of_waiting aborted waits]
      exact waiting_store_self _

theorem waiting_complete_of_ne (aborted : Bool) (differs : other ≠ token) :
    (scheduler.complete aborted token).waiting other = scheduler.waiting other := by
  cases waits : scheduler.waiting token with
  | none => rw [complete_of_idle aborted waits]
  | some kind =>
      rw [complete_of_waiting aborted waits]
      exact waiting_store_of_ne _ differs

theorem mem_complete_iff (aborted : Bool) (handler : Handler) :
    handler ∈ (scheduler.complete aborted token).queue ↔
      handler ∈ scheduler.queue ∨ ∃ kind, scheduler.waiting token = some kind ∧
        handler = .wait kind token aborted := by
  cases waits : scheduler.waiting token with
  | none => simp [complete_of_idle aborted waits]
  | some kind => simp [complete_of_waiting aborted waits, post, store]

theorem isSome_timers_of_waiting {kind : Kind}
    (waits : scheduler.waiting token = some kind) :
    (scheduler.timers token).isSome := by
  unfold waiting at waits
  cases stored : scheduler.timers token with
  | none =>
      rw [stored] at waits
      cases waits
  | some timer => rfl

theorem isSome_timers_complete (aborted : Bool) :
    ((scheduler.complete aborted token).timers other).isSome =
      (scheduler.timers other).isSome := by
  cases waits : scheduler.waiting token with
  | none => rw [complete_of_idle aborted waits]
  | some kind =>
      rw [complete_of_waiting aborted waits]
      by_cases here : other = token
      · rw [here, isSome_timers_of_waiting waits]
        simp [post, store]
      · simp [post, store, here]

theorem erase_of_idle (idle : scheduler.waiting token = none) :
    scheduler.erase token = scheduler.store token none := by
  unfold erase
  rw [complete_of_idle true idle]

end operations

def Handler.waitsFor (token : CancellationToken) : Handler → Bool
  | .wait _ other _ => other = token
  | .callback _ => false

@[simp] theorem Handler.waitsFor_wait (kind : Kind)
    (token other : CancellationToken) (aborted : Bool) :
    (Handler.wait kind other aborted).waitsFor token = decide (other = token) := rfl

@[simp] theorem Handler.waitsFor_callback (token other : CancellationToken) :
    (Handler.callback other).waitsFor token = false := rfl

/-- A timer has at most one wait, pending or ended. -/
structure Orderly (scheduler : BoostAsioScheduler) : Prop where
  single : ∀ token, scheduler.queue.countP (Handler.waitsFor token) +
    (if (scheduler.waiting token).isSome then 1 else 0) ≤ 1
  stored : ∀ kind token aborted, .wait kind token aborted ∈ scheduler.queue →
    (scheduler.timers token).isSome

structure Quiet (scheduler : BoostAsioScheduler) (token : CancellationToken) :
    Prop where
  waiting : scheduler.waiting token = none
  expired : ∀ kind, .wait kind token false ∉ scheduler.queue
  posted : .callback token ∉ scheduler.queue

structure Good (scheduler : BoostAsioScheduler) : Prop extends
    Orderly scheduler, Upholds scheduler where
  quiet : ∀ token, standing token scheduler.history = .cancelled →
    scheduler.Quiet token

/-! ### Runs of handlers -/

theorem countP_erase {queue : List Handler} {handler : Handler}
    (queued : handler ∈ queue) (counts : Handler → Bool) :
    queue.countP counts =
      (queue.erase handler).countP counts + if counts handler then 1 else 0 := by
  rw [(List.perm_cons_erase queued).countP_eq counts, List.countP_cons]

section handlers

variable {scheduler after : BoostAsioScheduler} {kind : Kind}
  {token : CancellationToken} {aborted : Bool}

theorem Orderly.idle (orderly : Orderly scheduler)
    (queued : .wait kind token aborted ∈ scheduler.queue) :
    scheduler.waiting token = none := by
  have counted : 0 < scheduler.queue.countP (Handler.waitsFor token) :=
    List.countP_pos_iff.mpr ⟨_, queued, decide_eq_true rfl⟩
  have single := orderly.single token
  cases waits : scheduler.waiting token with
  | none => rfl
  | some other =>
      rw [waits, Option.isSome_some, if_pos rfl] at single
      omega

theorem Orderly.alone (orderly : Orderly scheduler)
    (queued : .wait kind token aborted ∈ scheduler.queue) :
    (scheduler.queue.erase (.wait kind token aborted)).countP
      (Handler.waitsFor token) = 0 := by
  have single := orderly.single token
  have counted := countP_erase queued (Handler.waitsFor token)
  rw [if_pos (by simp)] at counted
  omega

theorem Orderly.unique (orderly : Orderly scheduler) {other : Kind} {ended : Bool}
    (queued : .wait kind token aborted ∈ scheduler.queue)
    (also : .wait other token ended ∈ scheduler.queue) :
    Handler.wait other token ended = .wait kind token aborted := by
  by_contra differs
  have left := (List.mem_erase_of_ne differs).mpr also
  have none := List.countP_eq_zero.mp (orderly.alone queued) _ left
  exact none (decide_eq_true rfl)

/-- The handler of a wait leaves the other timers alone, posts the callback where
the timer expired, and lets a repeating timer wait again. -/
structure Handled (kind : Kind) (token : CancellationToken) (aborted : Bool)
    (scheduler after : BoostAsioScheduler) : Prop where
  queued : .wait kind token aborted ∈ scheduler.queue
  queue : after.queue = scheduler.queue.erase (.wait kind token aborted) ++
    if aborted then [] else [.callback token]
  history : after.history = scheduler.history
  others : ∀ other, other ≠ token → after.timers other = scheduler.timers other
  own : after.waiting token =
    if kind = .repeating ∧ aborted = false then some .repeating else none

theorem Handled.waiting_of_ne (handled : Handled kind token aborted scheduler after)
    {other : CancellationToken} (differs : other ≠ token) :
    after.waiting other = scheduler.waiting other := by
  unfold waiting
  rw [handled.others other differs]

/-- A wait that is still queued is of another timer, and was queued before. -/
theorem Handled.wait_mem (handled : Handled kind token aborted scheduler after)
    (orderly : Orderly scheduler) {other : Kind} {owner : CancellationToken}
    {ended : Bool} (member : .wait other owner ended ∈ after.queue) :
    owner ≠ token ∧ .wait other owner ended ∈ scheduler.queue := by
  rw [handled.queue] at member
  rcases List.mem_append.mp member with left | posted
  · refine ⟨?_, List.mem_of_mem_erase left⟩
    rintro rfl
    exact List.countP_eq_zero.mp (orderly.alone handled.queued) _ left
      (decide_eq_true rfl)
  · split at posted
    · cases posted
    · rw [List.mem_singleton] at posted
      cases posted

theorem Handled.keeps (handled : Handled kind token aborted scheduler after)
    {handler : Handler} (member : handler ∈ scheduler.queue)
    (differs : handler ≠ .wait kind token aborted) : handler ∈ after.queue := by
  rw [handled.queue]
  exact List.mem_append_left _ ((List.mem_erase_of_ne differs).mpr member)

theorem Handled.orderly (handled : Handled kind token aborted scheduler after)
    (orderly : Orderly scheduler) : Orderly after where
  single other := by
    have posted : (if aborted then [] else [Handler.callback token]).countP
        (Handler.waitsFor other) = 0 := by
      cases aborted <;> simp
    have counted := countP_erase handled.queued (Handler.waitsFor other)
    rw [handled.queue, List.countP_append, posted]
    by_cases here : other = token
    · rw [here, orderly.alone handled.queued]
      split <;> omega
    · rw [handled.waiting_of_ne here]
      have single := orderly.single other
      omega
  stored other owner ended member := by
    obtain ⟨differs, was⟩ := handled.wait_mem orderly member
    rw [handled.others owner differs]
    exact orderly.stored other owner ended was

/-- The callback that the handler answers for is posted or waits again. -/
theorem Handled.pending (handled : Handled kind token aborted scheduler after)
    (orderly : Orderly scheduler) {owner : CancellationToken} {needed : Kind}
    (pending : scheduler.Pending needed owner) : after.Pending needed owner := by
  by_cases here : owner = token
  · rw [here] at pending ⊢
    cases pending with
    | waits waiting =>
        rw [orderly.idle handled.queued] at waiting
        cases waiting
    | expired also =>
        obtain ⟨sameKind, -, ended⟩ :=
          Handler.wait.inj (orderly.unique handled.queued also)
        cases needed with
        | relative =>
            apply Pending.posted rfl
            rw [handled.queue, ← ended]
            simp
        | repeating =>
            apply Pending.waits
            rw [handled.own, if_pos ⟨sameKind.symm, ended.symm⟩]
    | posted relative also => exact .posted relative (handled.keeps also (by simp))
  · cases pending with
    | waits waiting => exact .waits ((handled.waiting_of_ne here).trans waiting)
    | expired also =>
        apply Pending.expired (handled.keeps also _)
        intro same
        exact here (Handler.wait.inj same).2.1
    | posted relative also => exact .posted relative (handled.keeps also (by simp))

/-- A cancelled callback whose wait is handled was aborted, so nothing is posted. -/
theorem Handled.quiet (handled : Handled kind token aborted scheduler after)
    (orderly : Orderly scheduler) {owner : CancellationToken}
    (quiet : scheduler.Quiet owner) : after.Quiet owner := by
  have aborts : owner = token → aborted = true := by
    rintro rfl
    cases aborted with
    | true => rfl
    | false => exact absurd handled.queued (quiet.expired kind)
  refine ⟨?_, ?_, ?_⟩
  · by_cases here : owner = token
    · rw [here, handled.own, if_neg]
      rintro ⟨-, ended⟩
      rw [aborts here] at ended
      cases ended
    · exact (handled.waiting_of_ne here).trans quiet.waiting
  · intro other member
    exact quiet.expired other (handled.wait_mem orderly member).2
  · rw [handled.queue]
    intro member
    rcases List.mem_append.mp member with left | posted
    · exact quiet.posted (List.mem_of_mem_erase left)
    · split at posted
      · cases posted
      · next ended =>
          have same := List.mem_singleton.mp posted
          injection same with here
          exact ended (aborts here)

theorem Good.handled (good : Good scheduler)
    (handled : Handled kind token aborted scheduler after) : Good after := by
  refine ⟨handled.orderly good.toOrderly, ⟨?silent, ?pending⟩, ?quiet⟩
  case silent =>
    rw [handled.history]
    exact good.silent
  case pending =>
    intro owner needed live
    rw [handled.history] at live
    exact handled.pending good.toOrderly (good.pending owner needed live)
  case quiet =>
    intro owner cancelled
    rw [handled.history] at cancelled
    exact handled.quiet good.toOrderly (good.quiet owner cancelled)

end handlers

/-! ### The other events -/

section events

variable {scheduler : BoostAsioScheduler} {token : CancellationToken}

theorem Orderly.complete (orderly : Orderly scheduler) (aborted : Bool)
    (token : CancellationToken) : Orderly (scheduler.complete aborted token) where
  single other := by
    have single := orderly.single other
    cases waits : scheduler.waiting token with
    | none => rwa [complete_of_idle aborted waits]
    | some kind =>
        rw [complete_of_waiting aborted waits]
        change (scheduler.queue ++ [Handler.wait kind token aborted]).countP _ +
          (if ((scheduler.store token (some ⟨none⟩)).waiting other).isSome
            then 1 else 0) ≤ 1
        rw [List.countP_append, List.countP_singleton]
        by_cases here : other = token
        · rw [here, waits, Option.isSome_some, if_pos rfl] at single
          rw [here, waiting_store_self]
          simp only [Handler.waitsFor_wait, decide_true, if_true, Option.bind_some,
            Option.isSome_none, Bool.false_eq_true, if_false]
          omega
        · rw [waiting_store_of_ne _ here]
          have differs : ¬ token = other := fun same => here same.symm
          simp only [Handler.waitsFor_wait, differs, decide_false,
            Bool.false_eq_true, if_false]
          exact single
  stored kind owner ended member := by
    rw [isSome_timers_complete]
    rcases (mem_complete_iff aborted _).mp member with was | ⟨other, waits, same⟩
    · exact orderly.stored kind owner ended was
    · injection same with _ here
      rw [here]
      exact isSome_timers_of_waiting waits

theorem Good.expired (good : Good scheduler) (token : CancellationToken) :
    Good (scheduler.complete false token) := by
  have history : (scheduler.complete false token).history = scheduler.history := by
    unfold BoostAsioScheduler.complete
    split <;> rfl
  refine ⟨good.toOrderly.complete false token, ⟨?silent, ?pending⟩, ?quiet⟩
  case silent =>
    rw [history]
    exact good.silent
  case pending =>
    intro owner needed live
    rw [history] at live
    cases good.pending owner needed live with
    | waits waiting =>
        by_cases here : owner = token
        · rw [here] at waiting ⊢
          exact .expired ((mem_complete_iff false _).mpr
            (.inr ⟨needed, waiting, rfl⟩))
        · exact .waits ((waiting_complete_of_ne false here).trans waiting)
    | expired queued => exact .expired ((mem_complete_iff false _).mpr (.inl queued))
    | posted relative queued =>
        exact .posted relative ((mem_complete_iff false _).mpr (.inl queued))
  case quiet =>
    intro owner cancelled
    rw [history] at cancelled
    have quiet := good.quiet owner cancelled
    refine ⟨?_, ?_, ?_⟩
    · by_cases here : owner = token
      · rw [here]
        exact waiting_complete_self false
      · exact (waiting_complete_of_ne false here).trans quiet.waiting
    · intro kind member
      rcases (mem_complete_iff false _).mp member with was | ⟨other, waits, same⟩
      · exact quiet.expired kind was
      · injection same with _ here
        rw [← here, quiet.waiting] at waits
        cases waits
    · intro member
      rcases (mem_complete_iff false _).mp member with was | ⟨other, waits, same⟩
      · exact quiet.posted was
      · cases same

theorem Good.cancelled (good : Good scheduler)
    (sound : scheduler.Sound (.cancel token)) :
    Good (cancelCallback token scheduler).2 := by
  obtain ⟨notExpired, notPosted⟩ := sound
  change Good { scheduler.complete true token with
    history := .cancelled token :: scheduler.history }
  have orderly := good.toOrderly.complete true token
  refine ⟨⟨orderly.single, orderly.stored⟩, ⟨?silent, ?pending⟩, ?quiet⟩
  case silent =>
    intro later owner earlier split
    cases later with
    | nil => cases split
    | cons note later =>
        injection split with _ rest
        exact good.silent later owner earlier rest
  case pending =>
    intro owner needed live
    change (if token = owner then Standing.cancelled
      else standing owner scheduler.history) = .live needed at live
    split at live
    · cases live
    · next differs =>
        cases good.pending owner needed live with
        | waits waiting =>
            exact .waits ((waiting_complete_of_ne true (Ne.symm differs)).trans
              waiting)
        | expired queued =>
            exact .expired ((mem_complete_iff true _).mpr (.inl queued))
        | posted relative queued =>
            exact .posted relative ((mem_complete_iff true _).mpr (.inl queued))
  case quiet =>
    intro owner cancelled
    have present {handler : Handler} (other : ∀ kind, handler ≠ .wait kind token true)
        (member : handler ∈ (scheduler.complete true token).queue) :
        handler ∈ scheduler.queue := by
      rcases (mem_complete_iff true _).mp member with was | ⟨kind, -, same⟩
      · exact was
      · exact absurd same (other kind)
    by_cases here : owner = token
    · rw [here]
      refine ⟨waiting_complete_self true, ?_, ?_⟩
      · intro kind member
        exact notExpired kind (present (by simp) member)
      · intro member
        exact notPosted (present (by simp) member)
    · change (if token = owner then Standing.cancelled
        else standing owner scheduler.history) = .cancelled at cancelled
      rw [if_neg (Ne.symm here)] at cancelled
      have quiet := good.quiet owner cancelled
      refine ⟨(waiting_complete_of_ne true here).trans quiet.waiting, ?_, ?_⟩
      · intro kind member
        exact quiet.expired kind (present (by simp) member)
      · intro member
        exact quiet.posted (present (by simp) member)

theorem Good.scheduled (good : Good scheduler) (kind : Kind) :
    Good (scheduleCallback kind scheduler).2 := by
  set token := scheduler.nextCancellationToken with next
  unfold scheduleCallback
  rw [Call.get_bind, Call.modify_bind]
  cases stored : scheduler.timers token with
  | some timer =>
      refine ⟨⟨good.single, good.stored⟩, ⟨good.silent, ?_⟩, ?_⟩
      · intro owner needed live
        cases good.pending owner needed live with
        | waits waiting => exact .waits waiting
        | expired queued => exact .expired queued
        | posted relative queued => exact .posted relative queued
      · intro owner cancelled
        have quiet := good.quiet owner cancelled
        exact ⟨quiet.waiting, quiet.expired, quiet.posted⟩
  | none =>
      change Good { scheduler.store token (some ⟨some kind⟩) with
        nextCancellationToken := token + 1
        history := .scheduled kind token :: scheduler.history }
      have unused : scheduler.queue.countP (Handler.waitsFor token) = 0 := by
        apply List.countP_eq_zero.mpr
        intro handler member waits
        cases handler with
        | wait other owner aborted =>
            have here : owner = token := of_decide_eq_true waits
            have isStored := good.stored other owner aborted member
            rw [here, stored] at isStored
            cases isStored
        | callback owner => cases waits
      have waitsNow : (scheduler.store token (some ⟨some kind⟩)).waiting token =
          some kind := waiting_store_self _
      have others {owner : CancellationToken} (differs : owner ≠ token) :
          (scheduler.store token (some ⟨some kind⟩)).waiting owner =
            scheduler.waiting owner := waiting_store_of_ne _ differs
      refine ⟨⟨?single, ?stored⟩, ⟨?silent, ?pending⟩, ?quiet⟩
      case single =>
        intro owner
        change scheduler.queue.countP _ + (if ((scheduler.store token
          (some ⟨some kind⟩)).waiting owner).isSome then 1 else 0) ≤ 1
        by_cases here : owner = token
        · rw [here, unused]
          split <;> omega
        · rw [others here]
          exact good.single owner
      case stored =>
        intro other owner aborted member
        change (Function.update scheduler.timers token (some ⟨some kind⟩)
          owner).isSome
        by_cases here : owner = token
        · rw [here, Function.update_self]
          rfl
        · rw [Function.update_of_ne here]
          exact good.stored other owner aborted member
      case silent =>
        intro later owner earlier split
        cases later with
        | nil => cases split
        | cons note later =>
            injection split with _ rest
            exact good.silent later owner earlier rest
      case pending =>
        intro owner needed live
        change (if token = owner then Standing.live kind
          else standing owner scheduler.history) = .live needed at live
        split at live
        · next here =>
            injection live with same
            rw [← here, ← same]
            exact .waits waitsNow
        · next differs =>
            cases good.pending owner needed live with
            | waits waiting => exact .waits ((others (Ne.symm differs)).trans waiting)
            | expired queued => exact .expired queued
            | posted relative queued => exact .posted relative queued
      case quiet =>
        intro owner cancelled
        change (if token = owner then Standing.live kind
          else standing owner scheduler.history) = .cancelled at cancelled
        split at cancelled
        · cases cancelled
        · next differs =>
            have quiet := good.quiet owner cancelled
            exact ⟨(others (Ne.symm differs)).trans quiet.waiting, quiet.expired,
              quiet.posted⟩

theorem Good.invoked (good : Good scheduler)
    (queued : .callback token ∈ scheduler.queue) :
    Good { scheduler with
      queue := scheduler.queue.erase (.callback token)
      history := .invoked token :: scheduler.history } := by
  have here : standing token scheduler.history ≠ .cancelled := by
    intro cancelled
    exact (good.quiet token cancelled).posted queued
  have before {owner : CancellationToken} {state : Standing} (other : state ≠ .done)
      (now : standing owner (.invoked token :: scheduler.history) = state) :
      standing owner scheduler.history = state := by
    change (if token = owner ∧ standing owner scheduler.history = .live .relative
      then Standing.done else standing owner scheduler.history) = state at now
    split at now
    · exact absurd now.symm other
    · exact now
  have kept {handler : Handler} (member : handler ∈ scheduler.queue)
      (differs : handler ≠ .callback token) :
      handler ∈ scheduler.queue.erase (.callback token) :=
    (List.mem_erase_of_ne differs).mpr member
  refine ⟨⟨?single, ?stored⟩, ⟨?silent, ?pending⟩, ?quiet⟩
  case single =>
    intro owner
    have counted := countP_erase queued (Handler.waitsFor owner)
    rw [Handler.waitsFor_callback, if_neg Bool.false_ne_true, Nat.add_zero] at counted
    change (scheduler.queue.erase (.callback token)).countP _ + _ ≤ 1
    rw [← counted]
    exact good.single owner
  case stored =>
    intro kind owner aborted member
    exact good.stored kind owner aborted (List.mem_of_mem_erase member)
  case silent =>
    intro later owner earlier split
    cases later with
    | nil =>
        injection split with note rest
        injection note with same
        rw [← rest, ← same]
        exact here
    | cons note later =>
        injection split with _ rest
        exact good.silent later owner earlier rest
  case pending =>
    intro owner needed live
    cases good.pending owner needed (before (by simp) live) with
    | waits waiting => exact .waits waiting
    | expired also => exact .expired (kept also (by simp))
    | posted relative also =>
        refine .posted relative (kept also ?_)
        intro same
        injection same with equal
        have was := before (by simp) live
        rw [equal, relative] at was
        change (if token = owner ∧ standing owner scheduler.history = .live .relative
          then Standing.done else _) = _ at live
        rw [if_pos ⟨equal.symm, by rw [equal, was]⟩] at live
        cases live
  case quiet =>
    intro owner cancelled
    have quiet := good.quiet owner (before (by simp) cancelled)
    refine ⟨quiet.waiting, ?_, ?_⟩
    · intro kind member
      exact quiet.expired kind (List.mem_of_mem_erase member)
    · intro member
      exact quiet.posted (List.mem_of_mem_erase member)

theorem Good.relativeHandled (good : Good scheduler) {aborted : Bool}
    {erased : CancellationToken}
    (queued : .wait .relative token aborted ∈ scheduler.queue)
    (sound : erased = token ∨ scheduler.timers erased = none) :
    Good (relativeHandler aborted token erased { scheduler with
      queue := scheduler.queue.erase (.wait .relative token aborted) }).2 := by
  have idle : scheduler.waiting erased = none := by
    rcases sound with rfl | missing
    · exact good.idle queued
    · unfold waiting
      rw [missing]
      rfl
  have others (other : CancellationToken) (differs : other ≠ token) :
      Function.update scheduler.timers erased none other = scheduler.timers other := by
    by_cases here : other = erased
    · rw [here, Function.update_self]
      rcases sound with same | missing
      · exact absurd (here.trans same) differs
      · exact missing.symm
    · exact Function.update_of_ne here _ _
  have own : (Function.update scheduler.timers erased none token).bind Timer.wait =
      none := by
    by_cases here : token = erased
    · rw [here, Function.update_self]
      rfl
    · rw [Function.update_of_ne here]
      exact good.idle queued
  have popped (queue : List Handler) :
      BoostAsioScheduler.erase erased { scheduler with queue } =
        store erased none { scheduler with queue } := erase_of_idle idle
  unfold relativeHandler
  cases aborted with
  | true =>
      change Good (BoostAsioScheduler.erase erased { scheduler with
        queue := scheduler.queue.erase (.wait .relative token true) })
      rw [popped]
      exact good.handled ⟨queued, (List.append_nil _).symm, rfl, others, own⟩
  | false =>
      change Good (BoostAsioScheduler.erase erased { scheduler with
        queue := scheduler.queue.erase (.wait .relative token false) ++
          [.callback token] })
      rw [popped]
      exact good.handled ⟨queued, rfl, rfl, others, own⟩

theorem handler_of_stored {timer : Timer} (stored : scheduler.timers token = some timer) :
    handler false token scheduler = (.ok (),
      ((scheduler.post (.callback token)).complete true token).store token
        (some ⟨some .repeating⟩)) := by
  have posted : (scheduler.post (.callback token)).timers token = some timer := stored
  unfold handler
  rw [if_neg Bool.false_ne_true, Call.modify_bind, Call.get_bind, posted]
  rfl

theorem Good.repeatingHandled (good : Good scheduler) {aborted : Bool}
    (queued : .wait .repeating token aborted ∈ scheduler.queue) :
    Good (handler aborted token { scheduler with
      queue := scheduler.queue.erase (.wait .repeating token aborted) }).2 := by
  have idle := good.idle queued
  have others (timer : Option Timer) (other : CancellationToken)
      (differs : other ≠ token) :
      Function.update scheduler.timers token timer other = scheduler.timers other :=
    Function.update_of_ne differs _ _
  cases aborted with
  | true =>
      have popped (queue : List Handler) :
          BoostAsioScheduler.erase token { scheduler with queue } =
            store token none { scheduler with queue } := erase_of_idle idle
      change Good (BoostAsioScheduler.erase token { scheduler with
        queue := scheduler.queue.erase (.wait .repeating token true) })
      rw [popped]
      exact good.handled ⟨queued, (List.append_nil _).symm, rfl, others none,
        waiting_store_self none⟩
  | false =>
      obtain ⟨timer, stored⟩ :=
        Option.isSome_iff_exists.mp (good.stored .repeating token false queued)
      have waits (queue : List Handler) :
          handler false token { scheduler with queue } = (.ok (),
            ((post (.callback token) { scheduler with queue }).complete true token).store
              token (some ⟨some .repeating⟩)) := handler_of_stored stored
      rw [waits]
      have popped (queue : List Handler) :
          BoostAsioScheduler.complete true token { scheduler with queue } =
            { scheduler with queue } := complete_of_idle true idle
      change Good ((BoostAsioScheduler.complete true token { scheduler with
        queue := scheduler.queue.erase (.wait .repeating token false) ++
          [.callback token] }).store token (some ⟨some .repeating⟩))
      rw [popped]
      exact good.handled ⟨queued, rfl, rfl, others (some ⟨some .repeating⟩),
        waiting_store_self (some ⟨some .repeating⟩)⟩

theorem step_run (scheduler : BoostAsioScheduler) (handler : Handler)
    (erased : CancellationToken) :
    step (.run handler erased) scheduler =
      if handler ∈ scheduler.queue then
        runHandler erased handler
          { scheduler with queue := scheduler.queue.erase handler }
      else (.ok (), scheduler) := by
  change Call.onlyIf (handler ∈ scheduler.queue) _ scheduler = _
  unfold Call.onlyIf
  split <;> rfl

theorem Good.step (good : Good scheduler) {event : Event}
    (sound : scheduler.Sound event) : Good (step event scheduler).2 := by
  have scheduled (kind : Kind) : Good ((do
      let _ ← scheduleCallback kind
      pure () : Action Unit) scheduler).2 := by
    have left := good.scheduled kind
    rw [Call.bind_apply]
    revert left
    generalize scheduleCallback kind scheduler = called
    intro left
    rcases called with ⟨exception | token, after⟩
    · exact left
    · exact left
  cases event with
  | scheduleRelative => exact scheduled .relative
  | scheduleRepeating => exact scheduled .repeating
  | cancel token => exact good.cancelled sound
  | expire token => exact good.expired token
  | run handler erased =>
      rw [step_run]
      by_cases queued : handler ∈ scheduler.queue
      · rw [if_pos queued]
        cases handler with
        | wait kind token aborted =>
            cases kind with
            | relative => exact good.relativeHandled queued sound
            | repeating => exact good.repeatingHandled queued
        | callback token => exact good.invoked queued
      · rw [if_neg queued]
        exact good

end events

theorem good_initial : Good initial where
  single _ := Nat.zero_le 1
  stored _ _ _ impossible := by cases impossible
  silent later _ _ split := by
    cases later with
    | nil => cases split
    | cons note later => cases split
  pending _ _ live := by cases live
  quiet _ cancelled := by cases cancelled

theorem Good.run {scheduler : BoostAsioScheduler} (good : Good scheduler)
    {events : List Event}
    (sound : ∀ moment ∈ trace events scheduler, moment.1.Sound moment.2) :
    Good (run events scheduler) := by
  induction events generalizing scheduler with
  | nil => exact good
  | cons event rest ih =>
      apply ih (good.step (sound (scheduler, event) List.mem_cons_self))
      intro moment member
      exact sound moment (List.mem_cons_of_mem _ member)

/-- A repeating callback whose timer has expired is called after it was cancelled,
and waits again.  A relative timer whose handler reads another token takes the
timer of that token away. -/
theorem cancelled_is_invoked :
    (run [.scheduleRepeating, .expire 0, .cancel 0,
        .run (.wait .repeating 0 false) 0, .run (.callback 0) 0] initial).history =
      [.invoked 0, .cancelled 0, .scheduled .repeating 0] ∧
    (run [.scheduleRepeating, .expire 0, .cancel 0,
        .run (.wait .repeating 0 false) 0, .run (.callback 0) 0] initial).waiting 0 =
      some .repeating ∧
    ¬ (run [.scheduleRepeating, .expire 0, .cancel 0,
        .run (.wait .repeating 0 false) 0, .run (.callback 0) 0] initial).Upholds ∧
    ¬ (run [.scheduleRelative, .scheduleRepeating, .cancel 0,
        .run (.wait .relative 0 true) 1] initial).Upholds := by
  refine ⟨by decide, by decide, ?_, ?_⟩
  · intro upholds
    exact upholds.silent [] 0 [.cancelled 0, .scheduled .repeating 0] (by decide)
      (by decide)
  · intro upholds
    cases upholds.pending 1 .repeating (by decide) with
    | waits waiting => exact absurd waiting (by decide)
    | expired queued => exact absurd queued (by decide)
    | posted relative => cases relative

/-- In every run of sound events, cancelled callbacks stay silent and the others
come. -/
theorem run_upholds {events : List Event}
    (sound : ∀ moment ∈ trace events initial, moment.1.Sound moment.2) :
    (run events initial).Upholds :=
  (good_initial.run sound).toUpholds

def cancelledAndExpired : List Event :=
  [.scheduleRepeating, .scheduleRelative, .cancel 0, .expire 1,
    .run (.wait .repeating 0 true) 0, .run (.wait .relative 1 false) 1,
    .run (.callback 1) 0]

theorem run_upholds_cancelled :
    (run cancelledAndExpired initial).Upholds ∧
      .invoked 1 ∈ (run cancelledAndExpired initial).history := by
  refine ⟨run_upholds ?_, by decide⟩
  unfold cancelledAndExpired
  simp only [trace, List.forall_mem_cons]
  refine ⟨trivial, trivial, ⟨?_, by decide⟩, trivial, trivial, .inl rfl, trivial, nofun⟩
  intro kind
  cases kind <;> decide

end BoostAsioScheduler

end Crocofix
