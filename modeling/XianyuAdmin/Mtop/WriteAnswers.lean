import XianyuAdmin.Mtop.PostMtop

/-!
# The POST of a write and its answers

A write to the platform may be repeated only when it has definitely failed, and a call
may report a certain failure only then.  Whether it does depends on at most two
answers: the one to the POST, and, if that one names a token error, the one to the
second POST.
-/

namespace XianyuAdmin.Mtop

open XianyuAdmin.Python Procedure

/-- The answer is an object whose list `ret` names no success. -/
def Answer.DefinitelyFailed : Answer → Prop
  | .json value => ∃ ret, retList? value = some ret ∧ ret.any isSuccessEntry = false
  | .failed _ | .notJson => False

def RepeatedAfterFailure (api : String) (session : Session) : Prop :=
  ∀ first second later, session.answersTo api = first :: second :: later →
    first.DefinitelyFailed

def EachFailed (api : String) (session : Session) : Prop :=
  ∀ given ∈ session.answersTo api, given.DefinitelyFailed

def FailureTruthful (api : String) (failure : Failure) (session : Session) : Prop :=
  RepeatedAfterFailure api session ∧ (failure.isUncertain = false → EachFailed api session)

def Truthful {Value : Type} (api : String) (call : Exchange Value) (session : Session) : Prop :=
  Ends call session (fun _ after => RepeatedAfterFailure api after) (FailureTruthful api)

section Sessions

variable {session : Session} {api : String}

theorem answersTo_record (response : Response) :
    (session.record api response).answersTo api = session.answersTo api ++ [response.answer] := by
  simp [Session.record, Session.answersTo]

theorem answersTo_record_of_ne {other : String} (hother : other ≠ api) (response : Response) :
    (session.record other response).answersTo api = session.answersTo api := by
  simp [Session.record, Session.answersTo, hother]

theorem repeatedAfterFailure_of_fresh (hfresh : session.answersTo api = []) :
    RepeatedAfterFailure api session := by
  intro first second later hanswers
  cases hfresh.symm.trans hanswers

theorem repeatedAfterFailure_of_one {given : Answer} (hone : session.answersTo api = [given]) :
    RepeatedAfterFailure api session := by
  intro first second later hanswers
  cases hone.symm.trans hanswers

theorem repeatedAfterFailure_iff_of_two {first second : Answer}
    (htwo : session.answersTo api = [first, second]) :
    RepeatedAfterFailure api session ↔ first.DefinitelyFailed := by
  constructor
  · exact fun hrepeated => hrepeated first second [] htwo
  · intro hfailed other third later hanswers
    cases htwo.symm.trans hanswers
    exact hfailed

theorem eachFailed_iff_of_one {given : Answer} (hone : session.answersTo api = [given]) :
    EachFailed api session ↔ given.DefinitelyFailed := by
  simp [EachFailed, hone]

theorem eachFailed_iff_of_two {first second : Answer}
    (htwo : session.answersTo api = [first, second]) :
    EachFailed api session ↔ first.DefinitelyFailed ∧ second.DefinitelyFailed := by
  simp [EachFailed, htwo]

theorem failureTruthful_of_fresh (hfresh : session.answersTo api = []) (failure : Failure) :
    FailureTruthful api failure session :=
  ⟨repeatedAfterFailure_of_fresh hfresh, fun _ given hgiven => by simp [hfresh] at hgiven⟩

end Sessions

section Posting

variable {platform : Platform} {api : String} {session : Session}
  {returns : Json → Session → Prop} {raises : Failure → Session → Prop}

theorem ends_postOnce :
    Ends (postOnce platform api) session returns raises ↔
      if signToken session.cookie = "" then raises (.productPublish missingToken) session
      else
        let response := platform api (session.answersTo api).length
        match response.answer with
        | .failed error => raises (.request error) (session.record api response)
        | .notJson => raises (.productPublish (notJsonError api)) (session.record api response)
        | .json value => returns value (session.record api response) := by
  unfold postOnce
  simp only [ends_bind, ends_get]
  split
  · simp only [ends_throw]
  · simp only [ends_bind, ends_set]
    split <;> simp_all

theorem ends_postMtop :
    Ends (postMtop platform api) session returns raises ↔
      Ends (postOnce platform api) session
        (fun result after =>
          if containsMarker result tokenErrorMarkers then
            Ends (postOnce platform api) after returns raises
          else returns result after)
        raises := by
  unfold postMtop
  rw [ends_bind]
  have hsame : (fun result after =>
        Ends (if containsMarker result tokenErrorMarkers then postOnce platform api
          else pure result) after returns raises) =
      fun result after =>
        if containsMarker result tokenErrorMarkers then
          Ends (postOnce platform api) after returns raises
        else returns result after := by
    funext result after
    split
    · rfl
    · exact propext ends_pure
  rw [hsame]

def Failure.IsPosting : Failure → Prop
  | .request _ | .productPublish _ => True
  | .orderAction _ | .productOperation _ | .imageValidation _ | .unexpectedShape => False

theorem ends_postOnce_of_ne {other : String} (hother : other ≠ api) :
    Ends (postOnce platform other) session
      (fun _ after => after.answersTo api = session.answersTo api)
      fun failure after => after.answersTo api = session.answersTo api ∧ failure.IsPosting := by
  rw [ends_postOnce]
  split
  · exact ⟨rfl, trivial⟩
  · dsimp only
    split
    · exact ⟨answersTo_record_of_ne hother _, trivial⟩
    · exact ⟨answersTo_record_of_ne hother _, trivial⟩
    · exact answersTo_record_of_ne hother _

theorem ends_postMtop_of_ne {other : String} (hother : other ≠ api) :
    Ends (postMtop platform other) session
      (fun _ after => after.answersTo api = session.answersTo api)
      fun failure after => after.answersTo api = session.answersTo api ∧ failure.IsPosting := by
  rw [ends_postMtop]
  refine (ends_postOnce_of_ne hother).mono (fun result after hafter => ?_) fun _ _ hend => hend
  split
  · refine (ends_postOnce_of_ne hother).mono (fun _ last hlast => hlast.trans hafter) ?_
    exact fun _ last hlast => ⟨hlast.1.trans hafter, hlast.2⟩
  · exact hafter

theorem keeps_postMtop {other : String} (hother : other ≠ api) (answers : List Answer) :
    Keeps (fun session => session.answersTo api = answers) (postMtop platform other) := by
  intro session hsession
  exact (ends_postMtop_of_ne hother).mono (fun _ _ hafter => hafter.trans hsession)
    fun _ _ hafter => hafter.1.trans hsession

end Posting

def Answer.isTokenError : Answer → Bool
  | .json value => containsMarker value tokenErrorMarkers
  | .failed _ | .notJson => false

/-- An answer that either leaves the result open or has a verdict in `ret`, or that the
call excuses for another reason. -/
def Answer.Clear (excuses : Json → Prop) : Answer → Prop
  | .json value => (retList? value).isSome ∨ excuses value
  | .failed _ | .notJson => True

/-- The answers to the first and to the second POST of the API suit the call. -/
def Settled (excuses : Json → Prop) (platform : Platform) (api : String) : Prop :=
  if (platform api 0).answer.isTokenError then
    (platform api 0).answer.DefinitelyFailed ∧
      (signToken (platform api 0).cookie ≠ "" → (platform api 1).answer.Clear excuses)
  else (platform api 0).answer.Clear excuses

structure Reports (api : String) (excuses : Json → Prop)
    (returns : Json → Session → Prop) (raises : Failure → Session → Prop) : Prop where
  answered : ∀ value after, returns value after ↔ RepeatedAfterFailure api after ∧
    (isSuccess value = false → ¬excuses value → EachFailed api after)
  request : ∀ error after, raises (.request error) after ↔ RepeatedAfterFailure api after
  notJson : ∀ after, raises (.productPublish (notJsonError api)) after ↔
    RepeatedAfterFailure api after
  unsigned : ∀ after, raises (.productPublish missingToken) after ↔
    RepeatedAfterFailure api after ∧ EachFailed api after

theorem isSuccess_eq {value : Json} {ret : List Json} (hret : retList? value = some ret) :
    isSuccess value = ret.any isSuccessEntry := by
  simp [isSuccess, hret]

/-- A certain failure is reported rightly when there is a verdict. -/
theorem clear_iff {excuses : Json → Prop} {value : Json} :
    (Answer.json value).Clear excuses ↔
      (isSuccess value = false → ¬excuses value → (Answer.json value).DefinitelyFailed) := by
  cases hret : retList? value with
  | none =>
      simp [Answer.Clear, Answer.DefinitelyFailed, isSuccess, hret]
  | some ret =>
      have hclear : (Answer.json value).Clear excuses := .inl (by simp [hret])
      refine iff_of_true hclear fun hnot _ => ⟨ret, hret, ?_⟩
      rw [← isSuccess_eq hret]
      exact hnot

section Write

variable {platform : Platform} {api : String} {excuses : Json → Prop} {session : Session}
  {returns : Json → Session → Prop} {raises : Failure → Session → Prop}

theorem ends_postOnce_iff (hreports : Reports api excuses returns raises) {first : Answer}
    (hfirst : session.answersTo api = [first]) :
    Ends (postOnce platform api) session returns raises ↔
      first.DefinitelyFailed ∧
        (signToken session.cookie ≠ "" → (platform api 1).answer.Clear excuses) := by
  rw [ends_postOnce, hfirst]
  by_cases htoken : signToken session.cookie = ""
  · rw [if_pos htoken, hreports.unsigned, eachFailed_iff_of_one hfirst]
    have hrepeated := repeatedAfterFailure_of_one hfirst
    simp [hrepeated, htoken]
  · rw [if_neg htoken]
    have htwo : (session.record api (platform api 1)).answersTo api =
        [first, (platform api 1).answer] := by
      rw [answersTo_record, hfirst]
      rfl
    have hrepeated := repeatedAfterFailure_iff_of_two htwo
    simp only [List.length_singleton, ne_eq, htoken, not_false_eq_true, true_imp_iff]
    cases hsecond : (platform api 1).answer with
    | failed error =>
        simp only [hreports.request, hrepeated, Answer.Clear, and_true]
    | notJson =>
        simp only [hreports.notJson, hrepeated, Answer.Clear, and_true]
    | json value =>
        rw [hsecond] at htwo
        simp only [hreports.answered, hrepeated, eachFailed_iff_of_two htwo, clear_iff]
        constructor
        · rintro ⟨hfailed, heach⟩
          exact ⟨hfailed, fun hnot hunexcused => (heach hnot hunexcused).2⟩
        · rintro ⟨hfailed, hclear⟩
          exact ⟨hfailed, fun hnot hunexcused => ⟨hfailed, hclear hnot hunexcused⟩⟩

theorem ends_write_iff (hreports : Reports api excuses returns raises)
    (hfresh : session.answersTo api = []) :
    Ends (postMtop platform api) session returns raises ↔
      (signToken session.cookie ≠ "" → Settled excuses platform api) := by
  rw [ends_postMtop, ends_postOnce, hfresh]
  by_cases htoken : signToken session.cookie = ""
  · rw [if_pos htoken, hreports.unsigned]
    have heach : EachFailed api session := by simp [EachFailed, hfresh]
    exact iff_of_true ⟨repeatedAfterFailure_of_fresh hfresh, heach⟩ fun hsigned =>
      absurd htoken hsigned
  · rw [if_neg htoken]
    have hone : (session.record api (platform api 0)).answersTo api =
        [(platform api 0).answer] := by
      rw [answersTo_record, hfresh]
      rfl
    have hrepeated := repeatedAfterFailure_of_one hone
    simp only [List.length_nil, ne_eq, htoken, not_false_eq_true, true_imp_iff]
    unfold Settled
    split
    · rename_i error hfirst
      simp [hreports.request, hrepeated, hfirst, Answer.isTokenError, Answer.Clear]
    · rename_i hfirst
      simp [hreports.notJson, hrepeated, hfirst, Answer.isTokenError, Answer.Clear]
    · rename_i value hfirst
      have htokenError : (platform api 0).answer.isTokenError =
          containsMarker value tokenErrorMarkers := by
        rw [hfirst]
        rfl
      rw [hfirst] at hone
      by_cases hmarker : containsMarker value tokenErrorMarkers = true
      · rw [if_pos hmarker, if_pos (htokenError.trans hmarker), hfirst]
        exact ends_postOnce_iff hreports hone
      · rw [if_neg hmarker, if_neg (htokenError ▸ hmarker), hreports.answered,
          eachFailed_iff_of_one hone, hfirst, clear_iff]
        simp only [hrepeated, true_and]

end Write

end XianyuAdmin.Mtop
