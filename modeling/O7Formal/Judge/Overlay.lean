import O7Formal.Lib.ByteCodec
import O7Formal.Lib.Collect
import O7Formal.Lib.Utf8
import O7Formal.Lib.WorkPool

/-! Triage of an analyzer's findings: one backend call for each file, whose verdicts are paired with
the file's findings and merged into one overlay. -/

namespace O7Formal.Judge

open ByteCodec Collect Utf8 WorkPool

structure Finding where
  tool : List Char
  path : List Char
  line : Int
  rule : List Char
  categoryName : List Char
  message : List Char
  deriving DecidableEq, Repr

structure Key where
  path : List Char
  line : Int
  rule : List Char
  deriving DecidableEq, Repr

structure Rep where
  id : List Char
  path : List Char
  line : Int
  rule : List Char
  categoryName : List Char
  message : List Char
  lines : List Int
  deriving DecidableEq, Repr

def Rep.key (rep : Rep) : Key := ⟨rep.path, rep.line, rep.rule⟩

structure RawVerdict (ν : Type) where
  path : Option (List Char)
  line : Option Int
  rule : Option (List Char)
  class_ : List Char
  confidence : ν
  reason : List Char
  evidence : List Char
  deriving DecidableEq, Repr

inductive Class where
  | real
  | falsePositive
  | uncertain
  deriving DecidableEq, Repr

def Class.text : Class → List Char
  | .real => "real".toList
  | .falsePositive => "false_positive".toList
  | .uncertain => "uncertain".toList

def normalizedClass (text : List Char) : Option Class :=
  [Class.real, .falsePositive, .uncertain].find? fun class_ => class_.text = text

structure VerdictOut (ν : Type) where
  class_ : Class
  confidence : ν
  reason : List Char
  evidence : List Char
  lines : List Int
  deriving DecidableEq, Repr

structure JudgeArgs where
  only : Option (List Char)
  maxFiles : Nat
  jobs : Nat
  dryRun : Bool
  deriving DecidableEq, Repr

/-- How the call for one file ended: before an answer (its source unreadable, the backend failing
every time), with an answer that holds no array of verdicts, or with such an array. -/
inductive Attempt (ν : Type) where
  | failed
  | unparsed (sessionId : Option (List Char)) (cost : Option ν)
  | answered (sessionId : Option (List Char)) (cost : Option ν) (raws : List (RawVerdict ν))

def Attempt.raws {ν : Type} : Attempt ν → Option (List (RawVerdict ν))
  | .answered _ _ raws => some raws
  | _ => none

section Findings

variable (sha1 : List UInt8 → List UInt8)

def findingId (path rule message : List Char) : List Char :=
  ((sha1 (utf8 path ++ 0x1f :: utf8 rule ++ 0x1f :: utf8 message)).flatMap hexByte).take 16

def Finding.id (f : Finding) : List Char := findingId sha1 f.path f.rule f.message

def enroll (reps : List Rep) (f : Finding) : List Rep :=
  if reps.any fun rep => rep.id = f.id sha1 then
    reps.map fun rep =>
      if rep.id = f.id sha1 then { rep with lines := rep.lines ++ [f.line] } else rep
  else reps ++ [⟨f.id sha1, f.path, f.line, f.rule, f.categoryName, f.message, [f.line]⟩]

def selected (a : JudgeArgs) (findings : List Finding) : List Finding :=
  match a.only with
  | some only => findings.filter fun f => f.path = only
  | none => findings

def dedupe (a : JudgeArgs) (findings : List Finding) : List Rep :=
  (selected a findings).foldl (enroll sha1) []

end Findings

section Files

variable (reps : List Rep)

def byFile (file : List Char) : List Rep := reps.filter fun rep => rep.path = file

def slated (a : JudgeArgs) : List (List Char) :=
  let files := (reps.map Rep.path).eraseDups
  if 0 < a.maxFiles ∧ a.maxFiles < files.length then files.take a.maxFiles else files

def linesById (id : List Char) : List Int :=
  ((reps.find? fun rep => rep.id = id).map Rep.lines).getD []

def keyToId (key : Key) : Option (List Char) :=
  (reps.reverse.find? fun rep => rep.key = key).map Rep.id

end Files

inductive Warning where
  | displaced (key : Key) (id : List Char)
  | recounted (verdicts findings : Nat)
  | unknown (key : Key)
  | incomplete
  deriving DecidableEq, Repr

def Key.text (key : Key) : String :=
  "(" ++ String.ofList key.path ++ ", " ++ toString key.line ++ ", " ++
    String.ofList key.rule ++ ")"

def Warning.text : Warning → String
  | .displaced key id =>
      "verdict echo " ++ key.text ++ " matches a different finding than its position (" ++
        String.ofList id ++ ") — trusting position per the ordered-output contract"
  | .recounted verdicts findings =>
      "model returned " ++ toString verdicts ++ " verdict(s) for " ++ toString findings ++
        " finding(s) — pairing by (path, line, rule) key instead of position"
  | .unknown key => "verdict for unknown finding " ++ key.text ++ " — skipped"
  | .incomplete => "verdict with incomplete echo and mismatched count — skipped"

section Pairing

variable {ν : Type}

def RawVerdict.echo (rv : RawVerdict ν) : Option Key :=
  match rv.path, rv.line, rv.rule with
  | some path, some line, some rule => some ⟨path, line, rule⟩
  | _, _, _ => none

def positionWarning (known : Key → Option (List Char)) (rv : RawVerdict ν) (rep : Rep) :
    Option Warning :=
  match rv.echo with
  | some key => if key ≠ rep.key ∧ (known key).isSome then some (.displaced key rep.id) else none
  | none => none

def keyWarning (known : Key → Option (List Char)) (rv : RawVerdict ν) : Option Warning :=
  match rv.echo with
  | some key => if (known key).isNone then some (.unknown key) else none
  | none => some .incomplete

def RawVerdict.named (known : Key → Option (List Char)) (rv : RawVerdict ν) : Option (List Char) :=
  rv.echo.bind known

def pairVerdicts (raws : List (RawVerdict ν)) (fif : List Rep) (known : Key → Option (List Char)) :
    List (List Char × RawVerdict ν) × List Warning :=
  if raws.length = fif.length then
    ((raws.zip fif).map fun (rv, rep) => (rep.id, rv),
      (raws.zip fif).filterMap fun (rv, rep) => positionWarning known rv rep)
  else
    (raws.filterMap fun rv => (rv.named known).map fun id => (id, rv),
      .recounted raws.length fif.length :: raws.filterMap (keyWarning known))

structure FileResult (ν : Type) where
  verdicts : List (List Char × VerdictOut ν) := []
  classes : List Class := []
  sessionId : Option (List Char) := none
  cost : Option ν := none
  fileSkipped : Bool := false
  findingsMalformed : Nat := 0

def verdictOut (reps : List Rep) (id : List Char) (rv : RawVerdict ν) (class_ : Class) :
    VerdictOut ν :=
  ⟨class_, rv.confidence, rv.reason, rv.evidence, linesById reps id⟩

def FileResult.record (reps : List Rep) (out : FileResult ν) (paired : List Char × RawVerdict ν) :
    FileResult ν :=
  match normalizedClass paired.2.class_ with
  | none => { out with findingsMalformed := out.findingsMalformed + 1 }
  | some class_ =>
      { out with
        classes := out.classes ++ [class_]
        verdicts := out.verdicts ++ [(paired.1, verdictOut reps paired.1 paired.2 class_)] }

def judgeOneFile (reps : List Rep) (file : List Char) : Attempt ν → FileResult ν
  | .failed => { fileSkipped := true }
  | .unparsed sessionId cost => { sessionId, cost, fileSkipped := true }
  | .answered sessionId cost raws =>
      (pairVerdicts raws (byFile reps file) (keyToId reps)).1.foldl (FileResult.record reps)
        { sessionId, cost }

end Pairing

structure Tally (ν : Type) where
  verdicts : Finmap fun _ : List Char => VerdictOut ν
  byClass : Finmap fun _ : Class => Nat
  sessionIds : List (List Char)
  costTotal : ν
  costAny : Bool
  filesSkipped : Nat
  findingsMalformed : Nat

section Merge

variable {ν : Type} [Zero ν] [Add ν]

def Tally.empty : Tally ν := ⟨∅, ∅, [], 0, false, 0, 0⟩

def Tally.merge (t : Tally ν) (res : FileResult ν) : Tally ν where
  verdicts := res.verdicts.foldl put t.verdicts
  byClass := res.classes.foldl bump t.byClass
  sessionIds := t.sessionIds ++ res.sessionId.toList
  costTotal := match res.cost with
    | some cost => t.costTotal + cost
    | none => t.costTotal
  costAny := t.costAny || res.cost.isSome
  filesSkipped := if res.fileSkipped then t.filesSkipped + 1 else t.filesSkipped
  findingsMalformed := t.findingsMalformed + res.findingsMalformed

/-- The results merged as they arrive: `order` numbers the slated files in the order in which
their results were delivered. -/
def merged (reps : List Rep) (a : JudgeArgs) (attempt : List Char → Attempt ν) (order : List Nat) :
    Tally ν :=
  (order.filterMap fun i => (slated reps a)[i]?.map fun file =>
    judgeOneFile reps file (attempt file)).foldl Tally.merge Tally.empty

structure Overlay (ν : Type) where
  tool : List Char
  verdicts : Finmap fun _ : List Char => VerdictOut ν

structure JudgeMeta (ν : Type) where
  filesJudged : Nat
  filesSkipped : Nat
  findingsMalformed : Nat
  findingsTotal : Nat
  idsTotal : Nat
  byClass : Finmap fun _ : Class => Nat
  sessionIds : List (List Char)
  costUsd : Option ν

inductive Outcome (ν : Type) where
  | noFindings
  | planned (plan : List (Nat × List Char))
  | judged (overlay : Overlay ν) (record : JudgeMeta ν)

def Outcome.succeeds : Outcome ν → Bool
  | .noFindings => false
  | .planned _ => true
  | .judged _ record => record.filesSkipped = 0

def toolOf (findings : List Finding) : List Char :=
  match findings.head? with
  | some f => if f.tool = [] then "own-check".toList else f.tool
  | none => "own-check".toList

def run (sha1 : List UInt8 → List UInt8) (a : JudgeArgs) (findings : List Finding)
    (attempt : List Char → Attempt ν) (order : List Nat) : Outcome ν :=
  let reps := dedupe sha1 a findings
  let files := slated reps a
  if reps = [] then .noFindings
  else if a.dryRun then .planned (files.map fun file => ((byFile reps file).length, file))
  else
    let t := merged reps a attempt order
    .judged ⟨toolOf findings, t.verdicts⟩
      { filesJudged := files.length - t.filesSkipped
        filesSkipped := t.filesSkipped
        findingsMalformed := t.findingsMalformed
        findingsTotal := (selected a findings).length
        idsTotal := reps.length
        byClass := t.byClass
        sessionIds := t.sessionIds
        costUsd := if t.costAny then some t.costTotal else none }

end Merge

def workers (jobs total : Nat) : Nat := min (max jobs 1) (max total 1)

/-- The orders in which a run's workers can deliver its results. -/
def Arrives (jobs total : Nat) (order : List Nat) : Prop :=
  Delivers total (workers jobs total) order

end O7Formal.Judge
