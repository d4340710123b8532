import Mathlib.Data.List.Nodup
import Mathlib.Logic.Function.Basic

namespace StubServer

/-- What can be seen of a caller: it begins a call, or it gets the answer. -/
inductive Moment (Op Reply : Type) where
  | called (caller : Nat) (op : Op)
  | answered (caller : Nat) (reply : Reply)

structure Effect (Op Reply : Type) where
  caller : Nat
  op : Op
  reply : Reply

/-- How an object behaves that is used by one caller at a time: the state in which it begins, and which
answers and states an operation may lead to. -/
structure Sequential (State Op Reply : Type) where
  initial : State
  effect : State → Op → Reply → State → Prop

variable {State Op Reply : Type}

/-- The object can be led to the state by these calls one after the other. -/
inductive Sequential.Legal (object : Sequential State Op Reply) : List (Effect Op Reply) → State → Prop
  | nil : Legal object [] object.initial
  | snoc {order state state'} {e : Effect Op Reply} (h : Legal object order state)
      (he : object.effect state e.op e.reply state') : Legal object (order ++ [e]) state'

/-- The order explains the history: each call takes effect at most once and after it has begun,
those that were answered have taken effect with this answer, and no call that began after the answer
to another takes effect before it. -/
structure Linearizes (object : Sequential State Op Reply) (history : List (Moment Op Reply))
    (order : List (Effect Op Reply)) (state : State) : Prop where
  legal : object.Legal order state
  once : (order.map Effect.caller).Nodup
  called : ∀ e ∈ order, .called e.caller e.op ∈ history
  answered : ∀ (n : Nat) (reply : Reply), .answered n reply ∈ history → ∃ op, ⟨n, op, reply⟩ ∈ order
  inTime : ∀ a ∈ order, ∀ b ∈ order, ∀ (reply : Reply) (op : Op),
    [.answered a.caller reply, .called b.caller op].Sublist history → [a, b].Sublist order

inductive Phase (Op Reply : Type) where
  | idle
  | asking (op : Op)
  | served (reply : Reply)
  | answered

/-- The histories that come about when every call takes effect at one instant, each with the state then
reached and the phases of all callers. -/
inductive Atomic (object : Sequential State Op Reply) :
    List (Moment Op Reply) → State → (Nat → Phase Op Reply) → Prop
  | start : Atomic object [] object.initial fun _ => .idle
  | call {history state phases} {n : Nat} (op : Op) (h : Atomic object history state phases)
      (hn : phases n = .idle) :
      Atomic object (history ++ [.called n op]) state (Function.update phases n (.asking op))
  | effect {history state phases} {n : Nat} {op : Op} {reply : Reply} {state' : State}
      (h : Atomic object history state phases) (hn : phases n = .asking op)
      (he : object.effect state op reply state') :
      Atomic object history state' (Function.update phases n (.served reply))
  | answer {history state phases} {n : Nat} {reply : Reply} (h : Atomic object history state phases)
      (hn : phases n = .served reply) :
      Atomic object (history ++ [.answered n reply]) state (Function.update phases n .answered)

def Phase.Fits (history : List (Moment Op Reply)) (order : List (Effect Op Reply)) (n : Nat) :
    Phase Op Reply → Prop
  | .idle => n ∉ order.map Effect.caller
  | .asking op => n ∉ order.map Effect.caller ∧ .called n op ∈ history
  | .served reply => ∃ op, ⟨n, op, reply⟩ ∈ order
  | .answered => True

theorem Phase.Fits.mono {history history' : List (Moment Op Reply)} {order : List (Effect Op Reply)}
    {n : Nat} {phase : Phase Op Reply} (h : phase.Fits history order n) (hh : history ⊆ history') :
    phase.Fits history' order n := by
  cases phase with
  | asking op => exact ⟨h.1, hh h.2⟩
  | idle | served | answered => exact h

theorem Phase.Fits.concat {history : List (Moment Op Reply)} {order : List (Effect Op Reply)} {m : Nat}
    {phase : Phase Op Reply} (h : phase.Fits history order m) {e : Effect Op Reply}
    (he : e.caller ≠ m) : phase.Fits history (order ++ [e]) m := by
  have hmem : m ∉ order.map Effect.caller → m ∉ (order ++ [e]).map Effect.caller := by
    simp only [List.map_append, List.map_cons, List.map_nil, List.mem_append, List.mem_singleton, not_or]
    exact fun h => ⟨h, he.symm⟩
  cases phase with
  | idle => exact hmem h
  | asking op => exact ⟨hmem h.1, h.2⟩
  | served reply =>
    obtain ⟨op, hop⟩ := h
    exact ⟨op, List.mem_append_left _ hop⟩
  | answered => trivial

theorem fits_update {history : List (Moment Op Reply)} {order : List (Effect Op Reply)}
    {phases : Nat → Phase Op Reply} {n : Nat} {phase : Phase Op Reply}
    (hn : phase.Fits history order n) (h : ∀ m, m ≠ n → (phases m).Fits history order m) (m : Nat) :
    (Function.update phases n phase m).Fits history order m := by
  by_cases hm : m = n
  · subst hm
    rwa [Function.update_self]
  · rw [Function.update_of_ne hm]
    exact h m hm

section

variable {α : Type} {a b c : α} {l : List α}

theorem pair_sublist_concat (h : [a, b].Sublist (l ++ [c])) : [a, b].Sublist l ∨ a ∈ l ∧ b = c := by
  rw [← List.reverse_sublist, List.reverse_append] at h
  cases h with
  | cons _ h => exact .inl (List.reverse_sublist.mp h)
  | cons_cons _ h => exact .inr ⟨List.mem_reverse.mp (List.singleton_sublist.mp h), rfl⟩

theorem pair_sublist_of_mem (ha : a ∈ l) : [a, b].Sublist (l ++ [b]) :=
  (List.singleton_sublist.mpr ha).append (.refl [b])

end

namespace Linearizes

variable {object : Sequential State Op Reply} {history : List (Moment Op Reply)}
  {order : List (Effect Op Reply)} {state : State} {n : Nat}

theorem call (h : Linearizes object history order state) (hn : n ∉ order.map Effect.caller) (op : Op) :
    Linearizes object (history ++ [.called n op]) order state := by
  refine ⟨h.legal, h.once, fun e he => List.mem_append_left _ (h.called e he), fun m reply hm => ?_,
    fun a ha b hb reply op' hsub => ?_⟩
  · rw [List.mem_append, List.mem_singleton] at hm
    obtain hm | hm := hm
    · exact h.answered m reply hm
    · cases hm
  · obtain hsub | ⟨_, he⟩ := pair_sublist_concat hsub
    · exact h.inTime a ha b hb reply op' hsub
    · injection he with he
      exact absurd (List.mem_map.mpr ⟨b, hb, he⟩) hn

theorem effect {op : Op} {reply : Reply} {state' : State} (h : Linearizes object history order state)
    (hn : n ∉ order.map Effect.caller) (hcalled : .called n op ∈ history)
    (he : object.effect state op reply state') :
    Linearizes object history (order ++ [⟨n, op, reply⟩]) state' := by
  have hunanswered : ∀ reply', .answered n reply' ∉ history := by
    intro reply' hmem
    obtain ⟨op', hop⟩ := h.answered n reply' hmem
    exact hn (List.mem_map.mpr ⟨_, hop, rfl⟩)
  refine ⟨.snoc h.legal he, ?_, fun e hmem => ?_, fun m reply' hm => ?_,
    fun a ha b hb reply' op' hsub => ?_⟩
  · rw [List.map_append, List.nodup_append]
    refine ⟨h.once, List.nodup_singleton _, fun m hm m' hm' heq => hn ?_⟩
    obtain rfl := List.mem_singleton.mp hm'
    exact heq ▸ hm
  · rw [List.mem_append, List.mem_singleton] at hmem
    obtain hmem | rfl := hmem
    · exact h.called e hmem
    · exact hcalled
  · obtain ⟨op', hop⟩ := h.answered m reply' hm
    exact ⟨op', List.mem_append_left _ hop⟩
  · have hold : a ∈ order := by
      rw [List.mem_append, List.mem_singleton] at ha
      obtain ha | rfl := ha
      · exact ha
      · exact absurd (hsub.subset List.mem_cons_self) (hunanswered reply')
    rw [List.mem_append, List.mem_singleton] at hb
    obtain hb | rfl := hb
    · exact (h.inTime a hold b hb reply' op' hsub).trans (List.sublist_append_left _ _)
    · exact pair_sublist_of_mem hold

theorem answer {op : Op} {reply : Reply} (h : Linearizes object history order state)
    (hn : ⟨n, op, reply⟩ ∈ order) :
    Linearizes object (history ++ [.answered n reply]) order state := by
  refine ⟨h.legal, h.once, fun e he => List.mem_append_left _ (h.called e he), fun m reply' hm => ?_,
    fun a ha b hb reply' op' hsub => ?_⟩
  · rw [List.mem_append, List.mem_singleton] at hm
    obtain hm | hm := hm
    · exact h.answered m reply' hm
    · cases hm
      exact ⟨op, hn⟩
  · obtain hsub | ⟨_, he⟩ := pair_sublist_concat hsub
    · exact h.inTime a ha b hb reply' op' hsub
    · cases he

end Linearizes

/-- A history that comes about with each call taking effect at one instant is explained by the order of
these instants. -/
theorem Atomic.linearizes {object : Sequential State Op Reply} {history : List (Moment Op Reply)}
    {state : State} {phases : Nat → Phase Op Reply} (h : Atomic object history state phases) :
    ∃ order, Linearizes object history order state ∧ ∀ n, (phases n).Fits history order n := by
  induction h with
  | start =>
    refine ⟨[], ⟨.nil, List.nodup_nil, ?_, ?_, ?_⟩, fun n => List.not_mem_nil⟩
    · intro e he
      cases he
    · intro n reply hn
      cases hn
    · intro a ha
      cases ha
  | @call history state phases n op _ hn ih =>
    obtain ⟨order, hlin, hfit⟩ := ih
    have hidle := hfit n
    rw [hn] at hidle
    refine ⟨order, hlin.call hidle op, fits_update ⟨hidle, ?_⟩ fun m _ => (hfit m).mono ?_⟩
    · exact List.mem_append_right _ List.mem_cons_self
    · exact List.subset_append_left _ _
  | @effect history state phases n op reply state' _ hn he ih =>
    obtain ⟨order, hlin, hfit⟩ := ih
    have hasking := hfit n
    rw [hn] at hasking
    refine ⟨_, hlin.effect hasking.1 hasking.2 he, fits_update ⟨op, ?_⟩ fun m hm =>
      (hfit m).concat hm.symm⟩
    exact List.mem_append_right _ List.mem_cons_self
  | @answer history state phases n reply _ hn ih =>
    obtain ⟨order, hlin, hfit⟩ := ih
    have hserved := hfit n
    rw [hn] at hserved
    obtain ⟨op, hop⟩ := hserved
    refine ⟨order, hlin.answer hop, fits_update trivial fun m _ => (hfit m).mono ?_⟩
    exact List.subset_append_left _ _

end StubServer
