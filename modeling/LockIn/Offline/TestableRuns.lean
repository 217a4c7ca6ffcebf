import LockIn.Content.ImportSafety
import LockIn.Content.StudiedSheets
import LockIn.Offline.PageSelection
import LockIn.Offline.ServedBundles
import LockIn.Study.StartedRuns

/-!
# Whether a started run can be tested

A run that was started has questions for each of its tests when its sheet is ready.  Custom and
Pomodoro runs are checked against the stock of the bank when their numbers of questions are
chosen.  The number that a standard run asks for is saved with the settings, and is only right
for a page bank when the pages of every part can hold so many questions.
-/

namespace LockIn.OfflineStudy

open Content List
open Outcome (bind_eq_ok mapError_eq_ok)
open Study (Difficulty Edition PageRange Plan Partitions Consecutive Run Store StartRequest Env
  Service)
open Whitespace (Text)

section
variable {pages rows : List Row} {start stop count : Int} {first last : Int}

variable {wanted : Nat}

end

def pageOf (row : Row) : Study.PageQuestions := ⟨row.number, row.questions.map Question.study⟩

def SelectedQuestion.study (selected : SelectedQuestion) : Study.Question :=
  { selected.question.study with sourceKey := some selected.sourceKey }

theorem Consecutive.within {part : Nat} {start stop : Int} {ranges : List PageRange}
    (h : Consecutive part start stop ranges) :
    ∀ range ∈ ranges, start ≤ range.startPage ∧ range.startPage ≤ range.endPage ∧
      range.endPage ≤ stop := by
  induction ranges generalizing part start with
  | nil => exact forall_mem_nil _
  | cons first rest ih =>
    obtain ⟨_, hstart, hle, hrest⟩ := h
    have hstop := hrest.start_le
    intro range hrange
    rcases mem_cons.mp hrange with rfl | hlater
    · omega
    · have hwithin := ih hrest range hlater
      omega

section
variable {rows : List Row} {first last start stop count size : Int}

end

variable {plans : Difficulty → Plan}

section
variable {casefold : Text → Text} {sheet : Sheet} {edition : Edition} {difficulty : Difficulty}

end

def requested (run : Run) (plan : Plan) (part : Nat) : Int :=
  ((run.ranges[part - 1]?).bind (·.questionCount)).getD
    (run.signature.questionsPerCheckpoint.getD plan.questionsPerCheckpoint)

def Tested (sheet : Study.Sheet) (run : Run) (part : Nat) : Prop :=
  ∃ content plan questions,
    Study.contentFor sheet run.scope.difficulty run.scope.edition = .ok (content, plan) ∧
    Study.questionsFor sheet run .checkpoint (some part) = .ok questions ∧ questions ≠ [] ∧
    ∀ rows, content.bank = .pages rows → ∃ range offset,
      Study.checkpointPages run content part = .ok (range, offset) ∧
      questions.length = min (requested run plan part).toNat
        ((rows.filter fun row => range.startPage + offset ≤ row.page ∧
          row.page ≤ range.endPage + offset).map Study.usable).sum ∧
      (questions.map Study.Question.sourceKey).Nodup

section
variable {sheet : Study.Sheet} {content : Study.ActiveStudyQuestionContent} {plan : Plan}
  {run : Run} {part : Nat}

end

section
variable {casefold : Text → Text} {sheet : Sheet} {content : QuestionContent} {changed : Bool}
  {plan : Plan} {rows : List Row} {begun run : Run} {part : Nat} {start stop first last : Int}

end

section
variable {casefold : Text → Text} {sheet : Sheet} {history calls : List (Env × Service)} {env : Env}
  {request : StartRequest} {store : Store} {run later : Run} {part : Nat}

end

end LockIn.OfflineStudy
