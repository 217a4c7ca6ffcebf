import LockIn.Study.RunInvariant

/-!
# The ranges of a Pomodoro run

A Pomodoro run starts with all of its pages in one open range.  When a reading cycle ends, the
range is closed at the page that was reached, with the questions chosen for it, and the pages
that are left make the next one.  The server closes ranges for its runs and the device for the
runs it plays offline.
-/

namespace LockIn.Study

open List Outcome

/-! ## Closing a range on the server and on a device

An argument of either call is a whole number, or `none` for a value that is no integer of the
language: for the server these are also its booleans, which are integers otherwise. -/

/-- `close_range` on any arguments. -/
def closeRangeOf (ranges : List PageRange) (part endPage questionCount : Option Int) :
    Except String (List PageRange) :=
  match part.filter fun part => 1 ≤ part ∧ part ≤ (ranges.length : Int) with
  | none => .error "This Pomodoro cycle is no longer current. Resume the saved session."
  | some part =>
    match ranges[part.toNat - 1]? with
    | none => .error "list index out of range"
    | some current =>
      match endPage.filter fun page => current.startPage ≤ page ∧ page ≤ current.endPage with
      | none => .error "Choose a page in the current Pomodoro reading range."
      | some endPage =>
        let capacity :=
          min maxPomodoroQuestions ((endPage - current.startPage + 1) * questionsPerPage)
        match questionCount.filter fun count => 1 ≤ count ∧ count ≤ capacity with
        | none =>
          .error ("Choose between 1 and " ++ toString capacity ++ " questions for these pages.")
        | some questionCount =>
          match current.questionCount with
          | some count =>
            if endPage ≠ current.endPage ∨ questionCount ≠ count then
              .error "A retry keeps the same Pomodoro pages and questions."
            else .ok ranges
          | none =>
            let closed := { current with endPage := endPage, questionCount := some questionCount }
            let tail : List PageRange :=
              if endPage < current.endPage then
                [{ part := part.toNat + 1, startPage := endPage + 1, endPage := current.endPage
                   questionCount := none }]
              else []
            .ok (ranges.take (part.toNat - 1) ++ [closed] ++ tail)

/-- `closePomodoroRange` of the device. -/
def closePomodoroRange (ranges : List PageRange) (part endPage count : Option Int) :
    Except String (List PageRange) :=
  if part.all fun part => part < 1 ∨ (ranges.length : Int) < part then
    .error "This Pomodoro cycle is no longer current. Resume the saved session."
  else
    let part := part.getD 0
    match ranges[(part - 1).toNat]? with
    | none => .error "Cannot read properties of undefined"
    | some range =>
      if endPage.all fun page => page < range.startPage ∨ range.endPage < page then
        .error "Choose a page in the current Pomodoro reading range."
      else
        let endPage := endPage.getD 0
        let capacity :=
          min maxPomodoroQuestions ((endPage - range.startPage + 1) * questionsPerPage)
        if count.all fun count => count < 1 ∨ capacity < count then
          .error ("Choose between 1 and " ++ toString capacity ++ " questions for these pages.")
        else
          let count := count.getD 0
          if range.questionCount.isSome then
            if endPage ≠ range.endPage ∨ range.questionCount ≠ some count then
              .error "A retry keeps the same Pomodoro pages and questions."
            else .ok ranges
          else
            .ok (ranges.take (part - 1).toNat ++
              [{ range with endPage := endPage, questionCount := some count }] ++
              if endPage < range.endPage then
                [{ part := (part + 1).toNat, startPage := endPage + 1, endPage := range.endPage
                   questionCount := none }]
              else [])

theorem all_outside (choice : Option Int) (low high : Int) :
    (choice.all fun value => value < low ∨ high < value) =
      (choice.filter fun value => low ≤ value ∧ value ≤ high).isNone := by
  cases choice with
  | none => rfl
  | some value =>
    by_cases h : low ≤ value ∧ value ≤ high
    · simp [Option.filter_some, h]
    · simp [Option.filter_some, h]
      omega

theorem filter_getD {choice : Option Int} {low high value : Int}
    (h : (choice.filter fun value => low ≤ value ∧ value ≤ high) = some value) :
    choice.getD 0 = value ∧ low ≤ value ∧ value ≤ high := by
  obtain ⟨hchoice, hin⟩ := Option.filter_eq_some_iff.mp h
  rw [hchoice]
  exact ⟨rfl, by simpa using hin⟩

theorem closePomodoroRange_eq (ranges : List PageRange) (part endPage count : Option Int) :
    closePomodoroRange ranges part endPage count = closeRangeOf ranges part endPage count := by
  unfold closePomodoroRange closeRangeOf
  rw [all_outside]
  cases hpart : part.filter fun part => 1 ≤ part ∧ part ≤ (ranges.length : Int) with
  | none => rfl
  | some place =>
    obtain ⟨hplace, hlow, hhigh⟩ := filter_getD hpart
    have hindex : (place - 1).toNat = place.toNat - 1 := by omega
    have hnext : (place + 1).toNat = place.toNat + 1 := by omega
    simp only [Option.isNone_some, Bool.false_eq_true, if_false, hplace, hindex, hnext]
    cases hfound : ranges[place.toNat - 1]? with
    | none =>
      rw [List.getElem?_eq_none_iff] at hfound
      omega
    | some range =>
      simp only [all_outside]
      cases hend : endPage.filter fun page => range.startPage ≤ page ∧ page ≤ range.endPage with
      | none => rfl
      | some page =>
        obtain ⟨hpage, _, _⟩ := filter_getD hend
        simp only [Option.isNone_some, Bool.false_eq_true, if_false, hpage]
        cases hcount : count.filter fun count => 1 ≤ count ∧
            count ≤ min maxPomodoroQuestions ((page - range.startPage + 1) * questionsPerPage) with
        | none => rfl
        | some chosen =>
          obtain ⟨hchosen, _, _⟩ := filter_getD hcount
          simp only [Option.isNone_some, Bool.false_eq_true, if_false, hchosen]
          cases hclosed : range.questionCount with
          | none => rfl
          | some kept =>
            have hsame : (some kept ≠ some chosen) ↔ chosen ≠ kept := by
              rw [Ne, Option.some.injEq, eq_comm]
            simp only [Option.isSome_some, if_true, hsame]

theorem closeRangeOf_whole (ranges : List PageRange) (part : Nat) (endPage count : Int) :
    closeRangeOf ranges (some part) (some endPage) (some count) =
      closeRange ranges part endPage count := by
  unfold closeRangeOf closeRange
  by_cases hpart : 1 ≤ (part : Int) ∧ (part : Int) ≤ ranges.length
  · have hindex : part - 1 < ranges.length := by omega
    rw [Option.filter_some, if_pos (by simpa using hpart), if_neg (by omega)]
    simp only [Int.toNat_natCast, getElem?_eq_getElem hindex, Option.filter_some,
      decide_eq_true_eq]
    by_cases hend : ranges[part - 1].startPage ≤ endPage ∧ endPage ≤ ranges[part - 1].endPage
    · rw [if_pos hend, if_neg (not_not.mpr hend)]
      simp only
      by_cases hcount : 1 ≤ count ∧ count ≤ min maxPomodoroQuestions
          ((endPage - ranges[part - 1].startPage + 1) * questionsPerPage)
      · rw [if_pos hcount]
        exact (if_neg (not_not.mpr hcount)).symm
      · rw [if_neg hcount, if_pos hcount]
    · rw [if_neg hend, if_pos hend]
  · have hnone : (if part = 0 then none else ranges[part - 1]?) = none := by
      by_cases hzero : part = 0
      · rw [if_pos hzero]
      · rw [if_neg hzero, List.getElem?_eq_none_iff]
        omega
    rw [Option.filter_some, if_neg (by simpa using hpart), hnone]

def PageRange.capacity (range : PageRange) : Int :=
  min maxPomodoroQuestions ((range.endPage - range.startPage + 1) * questionsPerPage)

/-- The ranges of a Pomodoro run over the pages from `start` to `stop`. -/
structure Cycles (ranges : List PageRange) (start stop : Int) : Prop where
  partition : Partitions ranges start stop
  closed : ClosedButLast ranges
  chosen : ∀ range ∈ ranges, ∀ count, range.questionCount = some count →
    1 ≤ count ∧ count ≤ range.capacity

def ClosedStay (before after : List PageRange) : Prop :=
  ∀ (index : Nat) range, before[index]? = some range → range.questionCount.isSome →
    after[index]? = some range

theorem ClosedStay.refl (ranges : List PageRange) : ClosedStay ranges ranges :=
  fun _ _ hrange _ => hrange

theorem ClosedStay.trans {first second third : List PageRange} (h : ClosedStay first second)
    (h' : ClosedStay second third) : ClosedStay first third :=
  fun index range hrange hclosed => h' index range (h index range hrange hclosed) hclosed

section
variable {ranges closed : List PageRange} {part : Nat} {start stop endPage count : Int}

theorem cycles_initialRanges (h : start ≤ stop) : Cycles (initialRanges start stop) start stop where
  partition := initialRanges_partitions h
  closed := fun range hrange => absurd hrange not_mem_nil
  chosen := by
    intro range hrange chosen hchosen
    obtain rfl := mem_singleton.mp hrange
    cases hchosen

theorem closeRange_count (h : closeRange ranges part endPage count = .ok closed) :
    ∃ current, ranges[part - 1]? = some current ∧ 1 ≤ count ∧
      count ≤ min maxPomodoroQuestions ((endPage - current.startPage + 1) * questionsPerPage) := by
  unfold closeRange at h
  split at h
  · cases h
  next current hcurrent =>
  split at hcurrent
  · cases hcurrent
  split at h
  · cases h
  simp only at h
  split at h
  · cases h
  next hcount =>
  obtain ⟨hlow, hhigh⟩ := not_not.mp hcount
  exact ⟨current, hcurrent, hlow, hhigh⟩

theorem Cycles.close (hc : Cycles ranges start stop)
    (h : closeRange ranges part endPage count = .ok closed) :
    Cycles closed start stop ∧ ClosedStay ranges closed := by
  obtain ⟨hpartition, hlast⟩ := closeRange_partitions hc.partition hc.closed h
  obtain ⟨front, current, back, hranges, hpart, hlow, hhigh, hcase⟩ :=
    closeRange_cases hc.closed h
  rcases hcase with ⟨_, _, rfl⟩ | ⟨hopen, rfl, tail, rfl, htail⟩
  · exact ⟨hc, ClosedStay.refl _⟩
  obtain ⟨found, hfound, hone, hcapacity⟩ := closeRange_count h
  have hfound : some current = some found := by
    rw [← hfound, hranges, ← hpart, Nat.add_sub_cancel,
      getElem?_append_right (Nat.le_refl _), Nat.sub_self]
    rfl
  cases hfound
  refine ⟨⟨hpartition, hlast, ?_⟩, ?_⟩
  · intro range hrange chosen hchosen
    rcases mem_append.mp hrange with hfront | hrest
    · exact hc.chosen range (by rw [hranges]; simp [hfront]) chosen hchosen
    · rcases mem_cons.mp hrest with rfl | hin
      · cases hchosen
        exact ⟨hone, hcapacity⟩
      · -- The pages that are left are in a range that is open.
        rw [htail] at hin
        split at hin
        · obtain rfl := mem_singleton.mp hin
          cases hchosen
        · cases hin
  · intro index range hrange hclosed
    rw [hranges] at hrange
    rcases Nat.lt_or_ge index front.length with hin | hout
    · rw [getElem?_append_left hin] at hrange ⊢
      exact hrange
    · rw [getElem?_append_right hout] at hrange
      cases hoffset : index - front.length with
      | zero =>
        rw [hoffset] at hrange
        cases hrange
        rw [hopen] at hclosed
        cases hclosed
      | succ offset =>
        rw [hoffset] at hrange
        cases hrange

theorem closeRange_closed {current : PageRange} (hpart : part ≠ 0)
    (hcurrent : ranges[part - 1]? = some current) (hclosed : current.questionCount = some count)
    (hend : current.endPage = endPage) (hstart : current.startPage ≤ endPage)
    (hcount : 1 ≤ count ∧ count ≤ current.capacity) :
    closeRange ranges part endPage count = .ok ranges := by
  subst hend
  unfold PageRange.capacity at hcount
  unfold closeRange
  rw [if_neg hpart, hcurrent]
  simp only
  rw [if_neg (not_not.mpr ⟨hstart, Int.le_refl _⟩), if_neg (not_not.mpr hcount), hclosed]
  simp

theorem closeRange_again (h : closeRange ranges part endPage count = .ok closed) :
    closeRange closed part endPage count = .ok closed := by
  have hgiven := h
  unfold closeRange at h
  split at h
  · cases h
  next current hcurrent =>
  split at hcurrent
  · cases hcurrent
  next hpart =>
  split at h
  · cases h
  next hinside =>
  simp only at h
  split at h
  · cases h
  next hcount =>
  cases hclosed : current.questionCount with
  | some chosen =>
    rw [hclosed] at h
    simp only at h
    split at h
    · cases h
    · cases h
      exact hgiven
  | none =>
    rw [hclosed] at h
    cases h
    have hindex : part - 1 < ranges.length := (List.getElem?_eq_some_iff.mp hcurrent).1
    have hlength : (ranges.take (part - 1)).length = part - 1 := by
      rw [length_take]
      omega
    apply @closeRange_closed _ _ _ _
      { current with endPage := endPage, questionCount := some count } hpart
    · rw [append_assoc, getElem?_append_right (by omega), hlength, Nat.sub_self]
      rfl
    · rfl
    · rfl
    · exact (not_not.mp hinside).1
    · exact not_not.mp hcount

/-- An answer of `close_range` was given on whole numbers. -/
theorem closeRangeOf_ok {place page chosen : Option Int}
    (h : closeRangeOf ranges place page chosen = .ok closed) :
    ∃ (part : Nat) (endPage count : Int), place = some (part : Int) ∧ page = some endPage ∧
      chosen = some count := by
  unfold closeRangeOf at h
  cases hplace : place.filter fun part => 1 ≤ part ∧ part ≤ (ranges.length : Int) with
  | none =>
    rw [hplace] at h
    cases h
  | some value =>
    obtain ⟨hvalue, hlow⟩ := Option.filter_eq_some_iff.mp hplace
    have hlow : 1 ≤ value ∧ value ≤ ranges.length := by simpa using hlow
    rw [hplace] at h
    simp only at h
    split at h
    · cases h
    split at h
    · cases h
    next endPage hend =>
    split at h
    · cases h
    next count hcount =>
    refine ⟨value.toNat, endPage, count, ?_, (Option.filter_eq_some_iff.mp hend).1,
      (Option.filter_eq_some_iff.mp hcount).1⟩
    rw [hvalue, Int.toNat_of_nonneg (by omega)]

end

structure Cycling (first last : Int) (earlier : List PageRange) (run : Run) : Prop where
  mode : run.scope.studyMode = .pomodoro
  cycles : Cycles run.ranges first last
  stays : ClosedStay earlier run.ranges

section
variable {first last : Int} {earlier : List PageRange} {run next : Run}

theorem kept_cycling (sheet : Sheet) (first last : Int) (earlier : List PageRange) :
    Kept sheet (Cycling first last earlier) fun _ => True := by
  apply Kept.of_terms
  · intro run next hrun hsame
    have hscope : next.scope = run.scope := congrArg (·.2.1) hsame
    have hranges : next.ranges = run.ranges := congrArg (·.2.2.pageRanges) hsame
    exact ⟨hscope ▸ hrun.mode, hranges ▸ hrun.cycles, hranges ▸ hrun.stays⟩
  · intro run next part endPage count hrun h
    obtain ⟨_, ⟨_, _, stop, questions, ranges, hclose, rfl⟩ | ⟨hmode, _, _⟩⟩ :=
      completePartReading_ok h
    · obtain ⟨hcycles, hstay⟩ := hrun.cycles.close hclose
      exact ⟨hrun.mode, hcycles, hrun.stays.trans hstay⟩
    · exact absurd hrun.mode hmode
  · intro run next content plan total runtime pages questions hrun _ _ h
    obtain rfl | ⟨hstandard, _⟩ := resumeRun_ok h
    · exact hrun
    · rw [hrun.mode] at hstandard
      cases hstandard

variable {sheet : Sheet} {content : ActiveStudyQuestionContent} {plan : Plan}
  {runtime : RuntimePlan}

theorem newRun_cycles {scope : RunScope} {pages questions : Option Int}
    (hmode : scope.studyMode = .pomodoro)
    (hcontent : contentFor sheet scope.difficulty scope.edition = .ok (content, plan))
    (hruntime : runtimePlan sheet content plan scope.studyMode pages questions = .ok runtime) :
    ∃ first last, runtime.pageRanges = initialRanges first last ∧
      Cycles runtime.pageRanges first last := by
  obtain ⟨start, stop, _, hpartition⟩ := contentFor_partitions hcontent
  have hranges := (runtimePlan_partitions hpartition hruntime).1
  rw [hmode] at hruntime
  obtain ⟨hother, _⟩ | ⟨_, first, last, _, _, _, _, _, ⟨_, rfl⟩ | ⟨hother, _⟩⟩ :=
    runtimePlan_ok hruntime
  · cases hother
  · refine ⟨first, last, rfl, ?_⟩
    -- One range partitions the pages from its first to its last.
    obtain ⟨_, _, hfirst, hle, _⟩ := hranges
    have hfirst : first = start := hfirst
    exact cycles_initialRanges (hfirst ▸ hle)
  · cases hother

theorem Cycling.afterCalls {store : Store} (hids : Table.Distinct Run.id store.runs)
    (hmem : run ∈ store.runs) (hrun : Cycling first last earlier run)
    (calls : List (Env × Service)) :
    ∃ later, (calls.foldl afterCall store).run? run.id = some later ∧
      Table.Distinct Run.id (calls.foldl afterCall store).runs ∧
      Cycling first last earlier later := by
  have htracks : Tracks (Cycling first last earlier) (fun _ => True) run.id (fun _ => True)
      store := by
    refine ⟨hids, .inl (mem_map_of_mem hmem), ?_, trivial⟩
    intro other hother hid
    rw [hids.eq hother hmem hid]
    exact ⟨trivial, hrun⟩
  have hafter := htracks.afterCalls calls fun _ _ _ sheet _ _ =>
    kept_cycling sheet first last earlier
  obtain ⟨later, hlater, hcycling⟩ := hafter.find fun hcreated => by
    have hnew := (hcreated 0 { run.scope with studyMode := .standard }
      ⟨.parts [], [], 0, [], false⟩ ⟨[], 0, none, none⟩ 0 0).2.mode
    cases hnew
  exact ⟨later, hlater, hafter.ids, hcycling⟩

end

/-- The ranges of a Pomodoro run partition its pages at any time and those that are closed stay
as they are, whatever is called and whether or not it succeeds.  The device closes ranges as
the server does, and closing one again changes nothing. -/
theorem pomodoro_ranges (history : List (Env × Service)) (env : Env) (request : StartRequest)
    (store : Store) (run : Run)
    (hstart : start env (reached history) request = .ok (store, run, true))
    (hmode : request.scope.studyMode = .pomodoro) (calls more : List (Env × Service)) :
    (∃ first last now later, run.ranges = initialRanges first last ∧
      (calls.foldl afterCall store).run? run.id = some now ∧
      ((calls ++ more).foldl afterCall store).run? run.id = some later ∧
      Cycles now.ranges first last ∧ Cycles later.ranges first last ∧
      ClosedStay now.ranges later.ranges) ∧
    (∀ ranges part endPage count,
      closePomodoroRange ranges part endPage count = closeRangeOf ranges part endPage count ∧
      ∀ closed, closeRangeOf ranges part endPage count = .ok closed →
        closeRangeOf closed part endPage count = .ok closed) ∧
    ∀ ranges (part : Nat) endPage count,
      closeRangeOf ranges (some part) (some endPage) (some count) =
        closeRange ranges part endPage count := by
  refine ⟨?_, ?_, closeRangeOf_whole⟩
  · have hids := start_distinct hstart
    have hmem := (start_active hstart).1
    obtain ⟨_, content, plan, runtime, total, base, _, hcontent, hruntime, _, hcase⟩ :=
      start_ok hstart
    obtain ⟨hold, _⟩ | ⟨_, _, _, _, hnew, _⟩ := hcase
    · cases hold
    obtain ⟨first, last, hinitial, hcycles⟩ := newRun_cycles hmode hcontent hruntime
    have hranges : run.ranges = runtime.pageRanges := by
      rw [hnew]
      rfl
    have hcycling : Cycling first last run.ranges run := by
      refine ⟨?_, by rw [hranges]; exact hcycles, ClosedStay.refl _⟩
      rw [hnew]
      exact hmode
    obtain ⟨now, hnow, hdistinct, hcyclingNow⟩ := hcycling.afterCalls hids hmem calls
    have hid : now.id = run.id := Table.find_key hnow
    have hstays : Cycling first last now.ranges now :=
      ⟨hcyclingNow.mode, hcyclingNow.cycles, ClosedStay.refl _⟩
    obtain ⟨later, hlater, _, hcyclingLater⟩ :=
      hstays.afterCalls hdistinct (Table.find_mem hnow) more
    rw [hid, ← foldl_append] at hlater
    exact ⟨first, last, now, later, hranges.trans hinitial, hnow, hlater, hcyclingNow.cycles,
      hcyclingLater.cycles, hcyclingLater.stays⟩
  · intro ranges part endPage count
    refine ⟨closePomodoroRange_eq ranges part endPage count, fun closed hclosed => ?_⟩
    obtain ⟨place, page, chosen, rfl, rfl, rfl⟩ := closeRangeOf_ok hclosed
    rw [closeRangeOf_whole] at hclosed ⊢
    exact closeRange_again hclosed

def twoPageSheet : Sheet :=
  { onePageSheet with
    pageBankEnabled := true
    settings := fun
      | .university => some ⟨true, some 2, 0, 0, 1, 1, false⟩
      | .lockin => none
    questions := fun _ => some
      { bank := .pages [⟨1, [oneQuestion]⟩, ⟨2, [oneQuestion]⟩]
        finalExam := [oneQuestion]
        revision := 1
        sourceRanges := [⟨1, 1, 2, none⟩]
        sourceChanged := false } }

def twoPageEnv (now : Nat) : Env := ⟨fun _ => some twoPageSheet, now, now, now⟩

def pomodoroScope : RunScope := ⟨1, 1, .easy, .university, .pomodoro⟩

def firstPageClosed : List (Env × Service) :=
  [(twoPageEnv 2, .completePartReading 1 1 (some 1) (some 1) (some 1)),
    (twoPageEnv 3, .completePartReading 1 1 (some 1) (some 2) (some 1))]

theorem two_page_ranges :
    ∃ store run, start (twoPageEnv 1) .empty ⟨pomodoroScope, none, none, false⟩ =
        .ok (store, run, true) ∧
      ∃ first last now later, run.ranges = initialRanges first last ∧
        (firstPageClosed.foldl afterCall store).run? run.id = some now ∧
        ((firstPageClosed ++ firstPageClosed).foldl afterCall store).run? run.id = some later ∧
        Cycles now.ranges first last ∧ Cycles later.ranges first last ∧
        ClosedStay now.ranges later.ranges := by
  have hgiven : ((start (twoPageEnv 1) .empty
      ⟨pomodoroScope, none, none, false⟩).toOption.any fun started => started.2.2) = true := by
    decide +kernel
  simp only [Option.any_eq_true, toOption_eq_some] at hgiven
  obtain ⟨⟨store, run, created⟩, hstart, hcreated⟩ := hgiven
  have hcreated : created = true := hcreated
  subst hcreated
  exact ⟨store, run, hstart,
    (pomodoro_ranges [] _ _ store run hstart rfl firstPageClosed firstPageClosed).1⟩

end LockIn.Study
