/-
# Halting at the first failure

An operation of a channel posts one item after another.  The first post that fails ends the
operation: what stood before it has gone out, nothing after it is attempted, and the operation
returns the failure of that post.  An operation none of whose posts fails returns no failure.

`Plan.Halts` says this of the shape of a plan, and `Plan.Halts.offered` reads it off a run.  The plans
of both kinds of channel have the shape, because every `>>` hands a failure on; so has each use of a
channel in a session, which is `each_use_halts_at_first_failure`.
-/
import Switchboard.Outbound.Session
import Switchboard.Outbound.Slack
import Switchboard.Proofs.Outbound.Law

namespace Switchboard.Outbound

variable {π α : Type}

/-! ## What a service does to a row of items -/

/-- `Offered service before items posted after outcome`: of a row of items that are offered to the
service after `before` attempts, those in `posted` go out, `after` attempts have been made in the
end, and the outcome is the failure of the last of them, if it failed. -/
inductive Offered (service : Service) (before : Nat) (items : List π) :
    List π → Nat → Option Failure → Prop where
  | all (accepted : ∀ i < items.length, service (before + i + 1) = none) :
      Offered service before items items (before + items.length) none
  | upTo (k : Nat) (failure : Failure) (inside : k < items.length)
      (accepted : ∀ i < k, service (before + i + 1) = none)
      (refused : service (before + k + 1) = some failure) :
      Offered service before items (items.take k) (before + k + 1) (some failure)

theorem Offered.nil (service : Service) (before : Nat) :
    Offered service before ([] : List π) [] before none :=
  .all fun _ h => absurd h (Nat.not_lt_zero _)

/-- A first item that is refused is the only one that is attempted. -/
theorem Offered.refused {service : Service} {before : Nat} {failure : Failure}
    (h : service (before + 1) = some failure) (item : π) (items : List π) :
    Offered service before (item :: items) [] (before + 1) (some failure) :=
  .upTo 0 failure (Nat.succ_pos _) (fun _ hi => absurd hi (Nat.not_lt_zero _)) h

/-- An acceptance of the first item and of those behind it, put together. -/
theorem accepted_cons {service : Service} {before k : Nat} (h : service (before + 1) = none)
    (accepted : ∀ i < k, service (before + 1 + i + 1) = none) :
    ∀ i < k + 1, service (before + i + 1) = none := by
  intro i hi
  cases i with
  | zero => exact h
  | succ i =>
      have := accepted i (by omega)
      rwa [show before + 1 + i + 1 = before + (i + 1) + 1 by omega] at this

/-- Behind a first item that is accepted, the others fare as if they were offered alone. -/
theorem Offered.accepted {service : Service} {before : Nat} (h : service (before + 1) = none)
    {item : π} {items posted : List π} {after : Nat} {outcome : Option Failure}
    (rest : Offered service (before + 1) items posted after outcome) :
    Offered service before (item :: items) (item :: posted) after outcome := by
  cases rest with
  | all accepted =>
      have hall : ∀ i < (item :: items).length, service (before + i + 1) = none :=
        accepted_cons h accepted
      rw [show before + 1 + items.length = before + (item :: items).length by
        rw [List.length_cons]; omega]
      exact .all hall
  | upTo k failure inside accepted refused =>
      have hk : before + 1 + k + 1 = before + (k + 1) + 1 := by omega
      have hinside : k + 1 < (item :: items).length := Nat.succ_lt_succ inside
      rw [hk] at refused ⊢
      exact .upTo (k + 1) failure hinside (accepted_cons h accepted) refused

/-- The faultless service refuses nothing. -/
theorem Offered.outcome_of_faultless {before after : Nat} {items posted : List π}
    {outcome : Option Failure}
    (h : Offered .faultless before items posted after outcome) : outcome = none := by
  cases h with
  | all => rfl
  | upTo _ _ _ _ refused => exact absurd refused (by simp [Service.faultless])

/-- Where nothing is refused, everything goes out. -/
theorem Offered.posted_eq {service : Service} {before after : Nat} {items posted : List π}
    (h : Offered service before items posted after none) : posted = items := by
  cases h with
  | all => rfl

/-! ## Plans that halt -/

namespace Plan

/-- A plan that stops with a post's failure as soon as a post fails, and that gets done
otherwise. -/
def Halts : Plan π → Prop
  | done => True
  | stop _ => False
  | note _ next => next.Halts
  | post _ next => (∀ failure, next (some failure) = .stop failure) ∧ (next none).Halts

theorem halts_single (item : π) : (single item).Halts := ⟨fun _ => rfl, trivial⟩

/-- Halting plans may follow one another: a failure of the first is handed on by `>>`. -/
theorem Halts.andThen {p q : Plan π} (hp : p.Halts) (hq : q.Halts) : (p >> q).Halts := by
  induction p with
  | done => exact hq
  | stop _ => exact hp.elim
  | note _ next ih => exact ih hp
  | post item next ih =>
      refine ⟨fun failure => ?_, ih none hp.2⟩
      show (next (some failure)).andThen _ = .stop failure
      rw [hp.1 failure]
      rfl

theorem halts_forEach {f : α → Plan π} (hf : ∀ a, (f a).Halts) :
    ∀ as : List α, (forEach f as).Halts
  | [] => trivial
  | a :: rest => (hf a).andThen (halts_forEach hf rest)

theorem Halts.items_andThen {p : Plan π} (hp : p.Halts) (q : Plan π) :
    (p >> q).items = p.items ++ q.items := by
  induction p with
  | done => rfl
  | stop _ => exact hp.elim
  | note _ next ih => exact ih hp
  | post item next ih => exact congrArg (item :: ·) (ih none hp.2)

theorem items_forEach {f : α → Plan π} (hf : ∀ a, (f a).Halts) :
    ∀ as : List α, (forEach f as).items = as.flatMap fun a => (f a).items
  | [] => rfl
  | a :: rest => by
      rw [forEach, (hf a).items_andThen, items_forEach hf rest, List.flatMap_cons]

theorem items_forEach_single (item : α → π) (as : List α) :
    (forEach (fun a => .single (item a)) as).items = as.map item := by
  rw [items_forEach fun _ => halts_single _, List.map_eq_flatMap]
  rfl

/-- A halting plan offers its items to the service, whatever has been done before. -/
theorem Halts.offered (service : Service) {p : Plan π} (hp : p.Halts) (o : Outbox π) :
    ∃ posted, (p.run service o).1.posted = posted.reverse ++ o.posted ∧
      Offered service o.attempts p.items posted (p.run service o).1.attempts
        (p.run service o).2 := by
  induction p generalizing o with
  | done => exact ⟨[], rfl, .nil service o.attempts⟩
  | stop _ => exact hp.elim
  | note event next ih => exact ih hp (o.note event)
  | post item next ih =>
      cases hs : service (o.attempts + 1) with
      | some failure =>
          have hrun : (post item next).run service o
              = (o.attempt item (some failure), some failure) := by
            simp only [run, hs, hp.1 failure]
          rw [hrun]
          exact ⟨[], rfl, .refused hs item _⟩
      | none =>
          have hrun : (post item next).run service o
              = (next none).run service (o.attempt item none) := by
            simp only [run, hs]
          obtain ⟨posted, hposted, hoffered⟩ := ih none hp.2 (o.attempt item none)
          rw [hrun]
          refine ⟨item :: posted, ?_, hoffered.accepted hs⟩
          rw [hposted]
          simp [Outbox.attempt]

end Plan

/-! ## Channels whose operations halt -/

namespace Channel

/-- A channel each of whose own operations halts. -/
structure Halting (c : Channel π) : Prop where
  text : ∀ recipient message, (c.text recipient message).Halts
  image : ∀ recipient url caption, (c.image recipient url caption).Halts
  attachment : ∀ recipient value message, (c.attachment recipient value message).Halts
  buttons : ∀ recipient message bs, (c.buttons recipient message bs).Halts

namespace Halting

variable {c : Channel π} (h : c.Halting)
include h

/-- Halting is a law of the channel. -/
theorem obeys : c.Obeys fun _ p => p.Halts where
  done _ := trivial
  andThen := Plan.Halts.andThen
  text := h.text
  image := h.image
  attachment := h.attachment
  buttons := h.buttons

/-- Of the items of its plan, one use lets a first part out. -/
theorem perform_offers_items (service : Service) (before : Nat) (operation : Operation) :
    Offered service before (operation.plan c).items (c.perform service before operation).posted
      (c.perform service before operation).after
      (c.perform service before operation).failure := by
  obtain ⟨posted, hposted, hoffered⟩ :=
    (h.obeys.plan operation).offered service { attempts := before }
  have hout : (c.perform service before operation).posted = posted := by
    simp [perform, hposted]
  rw [hout]
  exact hoffered

/-- A use that returns no failure has posted all items of its plan. -/
theorem posted_eq_items {service : Service} {before : Nat} {operation : Operation}
    (hdone : (c.perform service before operation).failure = none) :
    (c.perform service before operation).posted = (operation.plan c).items := by
  have hoffered := h.perform_offers_items service before operation
  rw [hdone] at hoffered
  exact hoffered.posted_eq

/-- Where no post fails, a use returns no failure. -/
theorem failure_of_faultless (before : Nat) (operation : Operation) :
    (c.perform .faultless before operation).failure = none :=
  (h.perform_offers_items .faultless before operation).outcome_of_faultless

/-- Of what one use posts where no post fails, a service that may fail lets a first part out. -/
theorem perform_offered (service : Service) (before : Nat) (operation : Operation) :
    Offered service before (c.posts operation) (c.perform service before operation).posted
      (c.perform service before operation).after
      (c.perform service before operation).failure := by
  have hposts : c.posts operation = (operation.plan c).items :=
    h.posted_eq_items (h.failure_of_faultless 0 operation)
  rw [hposts]
  exact h.perform_offers_items service before operation

/-- The items of a response are those of its three parts. -/
theorem items_respond (recipient : String) (r : Response) :
    (c.respond recipient r).items
      = (c.planText recipient r).items ++ (c.planImage recipient r).items ++
        (c.planAttachment recipient r).items := by
  have htext : (c.planText recipient r).Halts := h.obeys.planText recipient r
  have himage : (c.planImage recipient r).Halts := h.obeys.planImage recipient r
  rw [respond, htext.items_andThen, himage.items_andThen, List.append_assoc]

end Halting

/-- Every use in a session is one use of the channel, after the attempts made before it. -/
theorem eq_perform_of_mem {c : Channel π} {service : Service} {u : Use π} :
    ∀ {before : Nat} {operations : List Operation},
      u ∈ c.performAll service before operations → u = c.perform service u.before u.operation
  | _, [], h => absurd h List.not_mem_nil
  | before, operation :: rest, h => by
      rcases List.mem_cons.mp h with rfl | h
      · rfl
      · exact eq_perform_of_mem h

theorem performAll_operations (c : Channel π) (service : Service) :
    ∀ (before : Nat) (operations : List Operation),
      (c.performAll service before operations).map Use.operation = operations
  | _, [] => rfl
  | _, _ :: rest => congrArg _ (performAll_operations c service _ rest)

/-- A channel that sends everything as text halts if its texts do. -/
theorem halting_ofText (name : String) {text : String → String → Plan π}
    (h : ∀ recipient message, (text recipient message).Halts) : (ofText name text).Halting where
  text := h
  image _ _ _ := h _ _
  attachment recipient value message := by
    refine Plan.Halts.andThen ?_ (h _ _)
    split
    · trivial
    · exact h _ _
  buttons _ _ _ := (h _ _).andThen (Plan.halts_forEach (fun _ => h _ _) _)

end Channel

theorem halts_slackText (recipient message : String) : (slackText recipient message).Halts :=
  Plan.halts_forEach (fun _ => Plan.halts_single _) _

theorem halting_slackChannel (override : Option String) : (slackChannel override).Halting where
  text _ _ := halts_slackText _ _
  image _ _ _ := Plan.halts_single _
  attachment _ _ _ := Plan.halts_single _
  buttons recipient message bs := by
    show Plan.Halts (if _ then _ else _)
    split
    · exact halts_slackText _ _
    · exact Plan.halts_single _

/-! ## Sessions -/

/-- In a session on the Slack channel, and in one on a channel that posts each text as one item and
sends everything as text, each use lets out what it would post without failures up to the first post
that the service refuses.  It attempts nothing more and returns the failure of that post, and no
failure where there is no such post. -/
theorem each_use_halts_at_first_failure (service : Service) (before : Nat)
    (operations : List Operation) :
    (∀ (override : Option String),
      let uses := (slackChannel override).performAll service before operations
      uses.map Use.operation = operations ∧
      ∀ u ∈ uses, Offered service u.before ((slackChannel override).posts u.operation) u.posted
        u.after u.failure) ∧
    ∀ (π : Type) (name : String) (item : String → String → π),
      let channel := Channel.ofText name fun recipient message => .single (item recipient message)
      let uses := channel.performAll service before operations
      uses.map Use.operation = operations ∧
      ∀ u ∈ uses, Offered service u.before (channel.posts u.operation) u.posted u.after
        u.failure := by
  constructor
  · intro override uses
    refine ⟨Channel.performAll_operations _ _ _ _, fun u hu => ?_⟩
    rw [Channel.eq_perform_of_mem hu]
    exact (halting_slackChannel override).perform_offered service u.before u.operation
  · intro π name item channel uses
    refine ⟨Channel.performAll_operations _ _ _ _, fun u hu => ?_⟩
    have hc : channel.Halting := Channel.halting_ofText name fun _ _ => Plan.halts_single _
    rw [Channel.eq_perform_of_mem hu]
    exact hc.perform_offered service u.before u.operation

end Switchboard.Outbound
