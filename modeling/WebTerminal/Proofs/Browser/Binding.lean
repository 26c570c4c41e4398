import WebTerminal.Browser.Client

/-! # Binding and unbinding

What a client does to its page when it binds things, or takes its listeners off again: only the
listeners and the calls of the page change, and they can be told from what is bound. -/

namespace WebTerminal.Browser

namespace Terminal.Binding

/-- What may throw when this is bound. -/
def hazard : Binding → Hazard
  | listen l => .listen l
  | tabIndex => .setAttribute

/-- The call that binds this. -/
def call : Binding → Call
  | listen l => .listen l
  | tabIndex => .attribute .terminal "tabindex" "0"

def listener? : Binding → Option Listener
  | listen l => some l
  | tabIndex => none

end Terminal.Binding

/-- The page when these are bound to it. -/
def Page.bound (bs : List Terminal.Binding) (p : Page) : Page :=
  { p with
    listeners := p.listeners ++ bs.filterMap Terminal.Binding.listener?
    calls := p.calls ++ bs.map Terminal.Binding.call }

namespace Terminal

/-- The client knows which listeners are its own. -/
def bound (bs : List Binding) (t : Terminal) : Terminal where
  client := { t.client with listeners := t.client.listeners ++ bs.filterMap Binding.listener? }
  page := t.page.bound bs

theorem bound_nil (t : Terminal) : t.bound [] = t := by
  simp [bound, Page.bound]

theorem bound_append (bs bs' : List Binding) (t : Terminal) :
    t.bound (bs ++ bs') = (t.bound bs).bound bs' := by
  simp [bound, Page.bound, List.append_assoc]

theorem bind_eq (binding : Binding) (t : Terminal) :
    t.bind binding =
      match t.page.throws binding.hazard with
      | some v => .error v
      | none => .ok (t.bound [binding]) := by
  cases binding with
  | listen l =>
    simp only [bind, listen, Page.listen, Binding.hazard]
    cases t.page.throws (.listen l) <;> rfl
  | tabIndex =>
    simp only [bind, Page.setAttribute, Binding.hazard]
    cases t.page.throws .setAttribute with
    | some v => rfl
    | none =>
      simp [Except.map, bound, Page.bound, withPage, List.filterMap_cons, Binding.listener?,
        Binding.call, Page.record]

/-- Things are bound in order, up to the first that throws. -/
theorem bindAll_bound (bs : List Binding) (t : Terminal) :
    ∃ done, done <+: bs ∧ (bindAll bs t).2 = t.bound done ∧
      ((bindAll bs t).1 = none ↔ ∀ binding ∈ bs, t.page.throws binding.hazard = none) := by
  induction bs generalizing t with
  | nil => exact ⟨[], List.prefix_rfl, t.bound_nil.symm, by simp [bindAll]⟩
  | cons binding bs ih =>
    unfold bindAll
    rw [bind_eq]
    cases ht : t.page.throws binding.hazard with
    | some v => exact ⟨[], List.nil_prefix, t.bound_nil.symm, by simp [ht]⟩
    | none =>
      obtain ⟨done, hprefix, hdone, hnone⟩ := ih (t.bound [binding])
      refine ⟨binding :: done, (List.prefix_cons_inj binding).mpr hprefix,
        hdone.trans (bound_append [binding] done t).symm, ?_⟩
      simp only [List.forall_mem_cons, ht, true_and]
      exact hnone

theorem foldl_erase_perm {ls base qs : List Listener} (h : qs.Perm (ls ++ base)) :
    (ls.foldl List.erase qs).Perm base := by
  induction ls generalizing qs with
  | nil => exact h
  | cons l ls ih =>
    have herased := h.erase l
    rw [List.cons_append, List.erase_cons_head] at herased
    exact ih herased

theorem unlistenAll_page (t : Terminal) :
    t.unlistenAll.page =
      { t.page with
        listeners := t.client.listeners.foldl List.erase t.page.listeners
        calls := t.page.calls ++ t.client.listeners.map .unlisten } := by
  change t.client.listeners.foldl (fun p l => p.unlisten l) t.page = _
  generalize t.page = p
  induction t.client.listeners generalizing p with
  | nil => simp
  | cons l ls ih =>
    rw [List.foldl_cons, ih]
    simp [Page.unlisten, Page.record]

end Terminal

end WebTerminal.Browser
