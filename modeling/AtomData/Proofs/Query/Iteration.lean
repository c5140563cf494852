import AtomData.Proofs.Query.Execution

/-!
# The end of an iteration

An iteration is asked for pages again and again, each time on the service as it then stands, and a call
may never come back.  `next_eq_none_iff` says when a call finds that there are no more pages: besides
the cap and a page without a next link, a failed call or an abandoned one ends the iteration for good.
-/

namespace AtomData.FeedPages

def after (p : FeedPages) : List Service → FeedPages
  | [] => p
  | s :: later => after (p.next s).2.1 later

def answers (p : FeedPages) : List Service → List (Outcome (Option Page))
  | [] => []
  | s :: later => (p.next s).1 :: answers (p.next s).2.1 later

instance (o : Outcome (Option Page)) : Decidable (o = .pending) :=
  match o with
  | .ok _ => isFalse nofun
  | .error _ => isFalse nofun
  | .pending => isTrue rfl

instance (o : Outcome (Option Page)) : Decidable (o = .ok none) :=
  match o with
  | .ok none => isTrue rfl
  | .ok (some _) => isFalse nofun
  | .error _ => isFalse nofun
  | .pending => isFalse nofun

def page? : Outcome (Option Page) → Option Page
  | .ok page => page
  | .error _ => none
  | .pending => none

def received (os : List (Outcome (Option Page))) : List Page := os.filterMap page?

/-- The last page had no next link, or there was a call that failed or that was abandoned. -/
def Ended (os : List (Outcome (Option Page))) : Prop :=
  (∃ page, (received os).getLast? = some page ∧ page.nextLink = none) ∨
    (∃ e, .error e ∈ os) ∨ .pending ∈ os

variable {p p' : FeedPages} {os : List (Outcome (Option Page))} {o : Outcome (Option Page)}

theorem after_concat (p : FeedPages) (earlier : List Service) (s : Service) :
    p.after (earlier ++ [s]) = ((p.after earlier).next s).2.1 := by
  induction earlier generalizing p with
  | nil => rfl
  | cons t earlier ih => exact ih _

theorem answers_concat (p : FeedPages) (earlier : List Service) (s : Service) :
    p.answers (earlier ++ [s]) = p.answers earlier ++ [((p.after earlier).next s).1] := by
  induction earlier generalizing p with
  | nil => rfl
  | cons t earlier ih => exact congrArg (_ :: ·) (ih _)

theorem received_concat (os : List (Outcome (Option Page))) (o : Outcome (Option Page)) :
    received (os ++ [o]) = received os ++ (page? o).toList := by
  cases found : page? o <;> simp [received, found]

theorem atCap_iff : p.atCap = true ↔ ∃ most, p.maxPages = some most ∧ most ≤ p.fetched := by
  cases capped : p.maxPages <;> simp [atCap, capped]

/-! ### One call -/

/-- What a call may come to, and the iteration that it leaves behind. -/
inductive Advances (p : FeedPages) : Outcome (Option Page) → FeedPages → Prop
  | full (capped : p.atCap = true) : Advances p (.ok none) { p with nextPath := none }
  | spent (free : p.atCap = false) (last : p.nextPath = none) : Advances p (.ok none) p
  | page {path : String} (page : Page) (free : p.atCap = false) (more : p.nextPath = some path) :
      Advances p (.ok (some page)) { p with nextPath := page.nextLink, fetched := p.fetched + 1 }
  | failed {path : String} (e : Error) (free : p.atCap = false) (more : p.nextPath = some path) :
      Advances p (.error e) { p with nextPath := none }
  | abandoned {path : String} (free : p.atCap = false) (more : p.nextPath = some path) :
      Advances p .pending { p with nextPath := none }

theorem advances_next (p : FeedPages) (s : Service) : Advances p (p.next s).1 (p.next s).2.1 := by
  by_cases full : p.atCap = true
  · rw [next_of_atCap full]
    exact .full full
  · have free := eq_false_of_ne_true full
    cases more : p.nextPath with
    | none =>
      rw [next_of_end free more]
      exact .spent free more
    | some path =>
      rw [next_of_path free more]
      rcases fetchPage path s with ⟨_ | _ | _, s'⟩
      · exact .page _ free more
      · exact .failed _ free more
      · exact .abandoned free more

theorem Advances.eq_none_iff (h : Advances p o p') :
    o = .ok none ↔ p.atCap = true ∨ p.nextPath = none := by
  cases h with
  | full capped => simp [capped]
  | spent free last => simp [last]
  | page page free more => simp [free, more]
  | failed e free more => simp [free, more]
  | abandoned free more => simp [free, more]

/-! ### Many calls -/

structure Reflects (cap : Option Nat) (os : List (Outcome (Option Page))) (p : FeedPages) : Prop where
  maxPages : p.maxPages = cap
  fetched : p.fetched = (received os).length
  nextPath : p.atCap = false → (p.nextPath = none ↔ Ended os)
  ended : Ended os → p.nextPath = none

theorem reflects_start (path : String) (cap : Option Nat) : Reflects cap [] (start path cap) where
  maxPages := rfl
  fetched := rfl
  nextPath _ := by simp [start, Ended, received]
  ended := by simp [Ended, received]

theorem ended_concat_none : Ended (os ++ [.ok none]) ↔ Ended os := by
  rw [Ended, received_concat]
  simp [page?, Ended]

theorem Reflects.atCap_iff {cap : Option Nat} (h : Reflects cap os p) :
    p.atCap = true ↔ ∃ most, cap = some most ∧ most ≤ (received os).length := by
  rw [FeedPages.atCap_iff, h.maxPages, h.fetched]

theorem Reflects.not_ended {cap : Option Nat} {path : String} (h : Reflects cap os p)
    (more : p.nextPath = some path) : ¬Ended os := by
  intro ended
  rw [h.ended ended] at more
  cases more

theorem Reflects.advance {cap : Option Nat} (h : Reflects cap os p) (step : Advances p o p') :
    Reflects cap (os ++ [o]) p' := by
  have fetched := h.fetched
  cases step with
  | full capped =>
    have stays : atCap { p with nextPath := none } = true := capped
    exact {
      maxPages := h.maxPages
      fetched := by simpa [received_concat, page?] using fetched
      nextPath := fun free => absurd (stays.symm.trans free) (by decide)
      ended := fun _ => rfl }
  | spent free last =>
    exact {
      maxPages := h.maxPages
      fetched := by simpa [received_concat, page?] using fetched
      nextPath := fun _ => by rw [ended_concat_none]; exact h.nextPath free
      ended := fun _ => last }
  | page page free more =>
    have going := h.not_ended more
    have ended : Ended (os ++ [.ok (some page)]) ↔ page.nextLink = none := by
      rw [Ended, not_or, not_or] at going
      simp [Ended, received_concat, page?, going.2]
    exact {
      maxPages := h.maxPages
      fetched := by simpa [received_concat, page?] using fetched
      nextPath := fun _ => ended.symm
      ended := ended.mp }
  | failed e free more =>
    have ended : Ended (os ++ [.error e]) := Or.inr (Or.inl ⟨e, by simp⟩)
    exact {
      maxPages := h.maxPages
      fetched := by simpa [received_concat, page?] using fetched
      nextPath := fun _ => iff_of_true rfl ended
      ended := fun _ => rfl }
  | abandoned free more =>
    have ended : Ended (os ++ [.pending]) := Or.inr (Or.inr (by simp))
    exact {
      maxPages := h.maxPages
      fetched := by simpa [received_concat, page?] using fetched
      nextPath := fun _ => iff_of_true rfl ended
      ended := fun _ => rfl }

theorem reflects_after (path : String) (cap : Option Nat) (earlier : List Service) :
    Reflects cap ((start path cap).answers earlier) ((start path cap).after earlier) := by
  induction earlier using List.reverseRecOn with
  | nil => exact reflects_start path cap
  | append_singleton earlier s ih =>
    rw [after_concat, answers_concat]
    exact ih.advance (advances_next _ s)

/-- After any calls, on services that may have changed in between and whether or not these calls came
back, a call finds no more pages just if the cap has been reached, the last page had no next link, or
an earlier call failed or was abandoned. -/
theorem next_eq_none_iff (path : String) (cap : Option Nat) (earlier : List Service) (s : Service) :
    (((start path cap).after earlier).next s).1 = .ok none ↔
      (∃ most, cap = some most ∧ most ≤ (received ((start path cap).answers earlier)).length) ∨
      (∃ page, (received ((start path cap).answers earlier)).getLast? = some page ∧ page.nextLink = none) ∨
      (∃ e, .error e ∈ (start path cap).answers earlier) ∨ .pending ∈ (start path cap).answers earlier := by
  have reflects := reflects_after path cap earlier
  rw [(advances_next _ s).eq_none_iff, ← reflects.atCap_iff]
  by_cases full : ((start path cap).after earlier).atCap = true
  · simp only [full, true_or]
  · rw [reflects.nextPath (eq_false_of_ne_true full)]
    exact Iff.rfl

section Kennel

private def kennelService : Service where
  root := "http://kennel"
  policy := .strict
  coercions := .empty
  transport := {
    replies := .ofList [
      ("http://kennel/$metadata", .answer ⟨200, "<Schema Namespace='K'><EntityType Name='Dog'/></Schema>"⟩),
      ("http://kennel/Dogs", .answer ⟨200, "<feed><entry><category term='Dog'/></entry></feed>"⟩)]
    requests := [] }

private def silentService : Service :=
  { kennelService with transport := kennelService.transport.setReply "http://kennel/Dogs" .silence }

/-- An iteration whose first call was abandoned says that there are no more pages.  It has no cap,
received no page without a next link, and met no failure; and a fresh one finds the dog. -/
theorem next_none_after_abandoned_call :
    (((start "Dogs" none).after [silentService]).next kennelService).1 = .ok none ∧
    received ((start "Dogs" none).answers [silentService]) = [] ∧
    (∀ e, .error e ∉ (start "Dogs" none).answers [silentService]) ∧
    (received ((start "Dogs" none).answers [kennelService])).map (fun page => page.entities.length) = [1] := by
  have abandoned : (start "Dogs" none).answers [silentService] = [.pending] :=
    congrArg (· :: []) (show ((start "Dogs" none).next silentService).1 = .pending by decide +kernel)
  rw [abandoned]
  exact ⟨by decide +kernel, rfl, by simp, by decide +kernel⟩

end Kennel

end AtomData.FeedPages
