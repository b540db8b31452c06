import Mathlib

/-!
# Downloads that follow redirects

A download visits a URL, and an answer either ends it or names the URL to visit next.  What is
checked before a visit, how the next URL is found and how an answer is read is left open.
-/

namespace XianyuAdmin.Redirects

structure Download (Visit Response Data Failure : Type) where
  /-- The checks before the request. -/
  visit : String → Except Failure Visit
  isRedirect : Response → Bool
  next : ℕ → Visit → Response → Except Failure String
  read : Response → Except Failure Data
  lost : Failure
  tooMany : Failure

variable {Visit Response Data Failure : Type}
variable (download : Download Visit Response Data Failure) (servers : ℕ → Option Response)

/-- The outcome of at most so many turns from the URL, and the visits that are made. -/
def follow : ℕ → ℕ → String → Except Failure Data × List Visit
  | 0, _, _ => (.error download.tooMany, [])
  | turns + 1, count, url =>
      match download.visit url with
      | .error failure => (.error failure, [])
      | .ok visit =>
          match servers count with
          | none => (.error download.lost, [visit])
          | some response =>
              if download.isRedirect response then
                match download.next count visit response with
                | .error failure => (.error failure, [visit])
                | .ok next =>
                    let later := follow turns (count + 1) next
                    (later.1, visit :: later.2)
              else (download.read response, [visit])

def Leads (count : ℕ) (url next : String) : Prop :=
  ∃ visit response, download.visit url = .ok visit ∧ servers count = some response ∧
    download.isRedirect response = true ∧ download.next count visit response = .ok next

def Reaches : ℕ → ℕ → String → String → Prop
  | 0, _, url, target => target = url
  | turns + 1, count, url, target =>
      ∃ next, Leads download servers count url next ∧ Reaches turns (count + 1) next target

variable {download servers} {turns count : ℕ} {url next : String} {visit : Visit}

theorem follow_of_leads (hvisit : download.visit url = .ok visit)
    (hleads : Leads download servers count url next) :
    follow download servers (turns + 1) count url =
      ((follow download servers turns (count + 1) next).1,
        visit :: (follow download servers turns (count + 1) next).2) := by
  obtain ⟨same, response, hsame, hserver, hredirect, hnext⟩ := hleads
  cases hvisit.symm.trans hsame
  simp only [follow, hvisit, hserver, hredirect, hnext, if_true]

variable (download servers) in
theorem follow_cases (turns count : ℕ) (url : String) :
    (∃ failure, download.visit url = .error failure ∧
      follow download servers (turns + 1) count url = (.error failure, [])) ∨
    ∃ visit, download.visit url = .ok visit ∧
      ((∃ next, Leads download servers count url next) ∨
        ∃ outcome, follow download servers (turns + 1) count url = (outcome, [visit]) ∧
          ∀ data, outcome = .ok data → ∃ response, download.read response = .ok data) := by
  cases hvisit : download.visit url with
  | error failure => exact .inl ⟨failure, rfl, by simp only [follow, hvisit]⟩
  | ok visit =>
      refine .inr ⟨visit, rfl, ?_⟩
      cases hserver : servers count with
      | none =>
          exact .inr ⟨.error download.lost, by simp only [follow, hvisit, hserver],
            fun _ hok => nomatch hok⟩
      | some response =>
          by_cases hredirect : download.isRedirect response = true
          · cases hnext : download.next count visit response with
            | error failure =>
                refine .inr ⟨.error failure, ?_, fun _ hok => nomatch hok⟩
                simp only [follow, hvisit, hserver, hredirect, hnext, if_true]
            | ok next => exact .inl ⟨next, visit, response, hvisit, hserver, hredirect, hnext⟩
          · refine .inr ⟨download.read response, ?_, fun _ hread => ⟨response, hread⟩⟩
            simp only [follow, hvisit, hserver, if_neg hredirect]

theorem length_follow_le (turns count : ℕ) (url : String) :
    (follow download servers turns count url).2.length ≤ turns := by
  induction turns generalizing count url with
  | zero => exact le_rfl
  | succ turns ih =>
      rcases follow_cases download servers turns count url with
        ⟨failure, -, hrun⟩ | ⟨visit, hvisit, ⟨next, hleads⟩ | ⟨outcome, hrun, -⟩⟩
      · rw [hrun]
        exact Nat.zero_le _
      · rw [follow_of_leads hvisit hleads]
        exact Nat.succ_le_succ (ih (count + 1) next)
      · rw [hrun]
        exact Nat.succ_le_succ (Nat.zero_le _)

/-- What is returned was read from an answer. -/
theorem read_of_follow {data : Data} (turns count : ℕ) (url : String)
    (hrun : (follow download servers turns count url).1 = .ok data) :
    ∃ response, download.read response = .ok data := by
  induction turns generalizing count url with
  | zero => cases hrun
  | succ turns ih =>
      rcases follow_cases download servers turns count url with
        ⟨failure, -, hcase⟩ | ⟨visit, hvisit, ⟨next, hleads⟩ | ⟨outcome, hcase, hread⟩⟩
      · rw [hcase] at hrun
        cases hrun
      · rw [follow_of_leads hvisit hleads] at hrun
        exact ih (count + 1) next hrun
      · rw [hcase] at hrun
        exact hread data hrun

theorem mem_follow_iff (turns count : ℕ) (url : String) :
    visit ∈ (follow download servers turns count url).2 ↔
      ∃ steps target, steps < turns ∧ Reaches download servers steps count url target ∧
        download.visit target = .ok visit := by
  induction turns generalizing count url with
  | zero =>
      refine ⟨fun hmem => absurd hmem List.not_mem_nil, ?_⟩
      rintro ⟨steps, target, hsteps, -⟩
      exact absurd hsteps (Nat.not_lt_zero _)
  | succ turns ih =>
      constructor
      · intro hmem
        rcases follow_cases download servers turns count url with
          ⟨failure, -, hrun⟩ | ⟨first, hfirst, ⟨next, hleads⟩ | ⟨outcome, hrun, -⟩⟩
        · rw [hrun] at hmem
          exact absurd hmem List.not_mem_nil
        · rw [follow_of_leads hfirst hleads, List.mem_cons] at hmem
          rcases hmem with rfl | hmem
          · exact ⟨0, url, Nat.succ_pos _, rfl, hfirst⟩
          · obtain ⟨steps, target, hsteps, hreaches, hvisit⟩ := (ih (count + 1) next).mp hmem
            exact ⟨steps + 1, target, Nat.succ_lt_succ hsteps, ⟨next, hleads, hreaches⟩, hvisit⟩
        · rw [hrun] at hmem
          cases List.mem_singleton.mp hmem
          exact ⟨0, url, Nat.succ_pos _, rfl, hfirst⟩
      · rintro ⟨_ | steps, target, hsteps, hreaches, hvisit⟩
        · cases hreaches
          rcases follow_cases download servers turns count url with
            ⟨failure, herror, -⟩ |
            ⟨first, hfirst, ⟨next, hleads⟩ | ⟨outcome, hrun, -⟩⟩
          · cases herror.symm.trans hvisit
          · rw [follow_of_leads hvisit hleads]
            exact List.mem_cons_self
          · cases hfirst.symm.trans hvisit
            rw [hrun]
            exact List.mem_singleton_self _
        · obtain ⟨next, hleads, hreaches⟩ := hreaches
          obtain ⟨first, hfirst⟩ : ∃ first, download.visit url = .ok first :=
            hleads.imp fun _ hok => hok.choose_spec.1
          rw [follow_of_leads hfirst hleads, List.mem_cons]
          exact .inr ((ih (count + 1) next).mpr
            ⟨steps, target, Nat.lt_of_succ_lt_succ hsteps, hreaches, hvisit⟩)

section Kept

variable {kept : Visit → Prop}
  (hkept : ∀ count visit response next other, kept visit →
    download.next count visit response = .ok next → download.visit next = .ok other → kept other)
include hkept

theorem kept_of_reaches {steps : ℕ} {target : String} {last : Visit}
    (hreaches : Reaches download servers steps count url target)
    (hvisit : download.visit url = .ok visit) (hlast : download.visit target = .ok last)
    (hfirst : kept visit) : kept last := by
  induction steps generalizing count url visit with
  | zero =>
      cases hreaches
      cases hvisit.symm.trans hlast
      exact hfirst
  | succ steps ih =>
      obtain ⟨next, ⟨same, response, hsame, -, -, hnext⟩, hreaches⟩ := hreaches
      cases hvisit.symm.trans hsame
      cases hother : download.visit next with
      | ok other => exact ih hreaches hother (hkept _ _ _ _ _ hfirst hnext hother)
      | error failure =>
          cases steps with
          | zero =>
              cases hreaches
              cases hother.symm.trans hlast
          | succ steps =>
              obtain ⟨_, ⟨_, _, hok, -⟩, -⟩ := hreaches
              cases hother.symm.trans hok

/-- What one visit hands to the next holds from the visit where it begins to the last one. -/
theorem pairwise_follow (turns count : ℕ) (url : String) :
    (follow download servers turns count url).2.Pairwise fun first second =>
      kept first → kept second := by
  induction turns generalizing count url with
  | zero => exact .nil
  | succ turns ih =>
      rcases follow_cases download servers turns count url with
        ⟨failure, -, hrun⟩ | ⟨first, hfirst, ⟨next, hleads⟩ | ⟨outcome, hrun, -⟩⟩
      · rw [hrun]
        exact .nil
      · rw [follow_of_leads hfirst hleads]
        refine .cons (fun second hsecond hbegins => ?_) (ih (count + 1) next)
        obtain ⟨steps, target, -, hreaches, hvisit⟩ := (mem_follow_iff _ _ _).mp hsecond
        have hreached : Reaches download servers (steps + 1) count url target :=
          ⟨next, hleads, hreaches⟩
        exact kept_of_reaches hkept hreached hfirst hvisit hbegins
      · rw [hrun]
        exact List.pairwise_singleton _ _

end Kept

end XianyuAdmin.Redirects
