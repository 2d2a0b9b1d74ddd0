/-
TableQuery/Proofs/History/Run.lean

A history through any sequence of operations.

A command is an operation with its arguments, so that a sequence of operations
is a list.  Only three commands touch the exchanges: adding puts one behind
the others, clearing drops all of them, and reopening puts in place of the
history what is read back from its saved form.  The others answer with
something made from the history.  What an answer is made of is a value, so
emptying the exchanges that were taken out leaves the history as it is.

Reading back restores an exchange if it restores the time, for the other four
parts are saved as they are (`Exchange.restore_save`).  That is where the
offsets are needed: an offset of whole seconds is none that a written time
loses (`Moment.HasWholeOffset.keeps`).  All exchanges of a history then come
back in their order (`restore_save`), so a reopened history is the history
that was saved, and the law of a run is that of a list that grows at its end
and is cleared (`exchanges_after`).
-/
import Mathlib.Data.List.DropRight
import TableQuery.History.Export
import TableQuery.History.Saved
import TableQuery.Proofs.Time.Reading

namespace TableQuery

/-! ### Reading back what was saved -/

/-- The time has no offset, or one of whole seconds. -/
def Moment.HasWholeOffset (m : Moment) : Prop := ∀ o ∈ m.offset, (1000000 : Int) ∣ o

instance (m : Moment) : Decidable m.HasWholeOffset :=
  inferInstanceAs (Decidable (∀ o ∈ m.offset, (1000000 : Int) ∣ o))

/-- An offset of whole seconds is zero or not shorter than a second. -/
theorem Moment.HasWholeOffset.keeps {m : Moment} (h : m.HasWholeOffset) :
    ∀ o ∈ m.offset, o = 0 ∨ 1000000 ≤ o.natAbs := by
  intro o ho
  have hdvd : (1000000 : Int) ∣ o := h o ho
  omega

namespace Exchange

/-- Every part is found under its name in the saved form. -/
theorem part_save (e : Exchange) :
    part e.save "query" = .ok e.query ∧ part e.save "response" = .ok e.response ∧
      part e.save "timestamp" = .ok (.text e.time.isoText) ∧
      partOrNull e.save "file_name" = e.fileName ∧
      partOrNull e.save "sheet_name" = e.sheetName := by
  simp [part, partOrNull, save, getNamed?]

/-- An exchange is read back from its saved form, all five parts of it. -/
theorem restore_save {e : Exchange} (h : e.time.HasWholeOffset) : restore e.save = .ok e := by
  obtain ⟨hquery, hresponse, htimestamp, hfile, hsheet⟩ := part_save e
  -- the time alone is looked into, the other parts are taken as they are
  have htime : timePart e.save = .ok e.time := by
    rw [timePart, htimestamp]
    dsimp only [bind, Except.bind]
    rw [Moment.read_isoText h.keeps, Except.mapError]
  rw [restore, hquery, hresponse, htime, hfile, hsheet]
  dsimp only [bind, Except.bind, pure, Except.pure]

end Exchange

namespace History

variable {h : History}

/-- All times have no offset, or one of whole seconds. -/
def HasWholeOffsets (h : History) : Prop := ∀ e ∈ h.exchanges, e.time.HasWholeOffset

/-- A history is read back from its saved form, all exchanges in their
order. -/
theorem restore_save (hwhole : h.HasWholeOffsets) : restore h.save = .ok h := by
  obtain ⟨exchanges⟩ := h
  have hitems : (exchanges.map Exchange.save).mapM Exchange.restore = .ok exchanges := by
    induction exchanges with
    | nil => rfl
    | cons e rest ih =>
      obtain ⟨he, hrest⟩ := List.forall_mem_cons.1 hwhole
      rw [List.map_cons, List.mapM_cons, Exchange.restore_save he, ih hrest]
      rfl
  have hsaved (items : Json) :
      (getNamed? "exchanges" [("exchanges", items)]).getD (.list []) = items := by
    simp [getNamed?]
  rw [save, restore, hsaved]
  show ((exchanges.map Exchange.save).mapM Exchange.restore).bind _ = _
  rw [hitems]
  rfl

/-! ### Commands -/

/-- An operation on a history with its arguments. -/
inductive Command where
  | add (query response : String) (time : Moment) (fileName sheetName : Option String)
  | clear
  | normalize (question : Option String)
  | save
  | export
  /-- Takes the exchanges out and empties what was taken. -/
  | emptyTaken
  /-- Puts in place of the history what is read back from its saved form. -/
  | reopen

/-- What an operation answers. -/
inductive Reply where
  | nothing
  | exchange (e : Exchange)
  | text (s : String)
  | saved (form : Json)
  | taken (exchanges : List Exchange)

/-- The answer of a command and the history after it. -/
def perform (h : History) : Command → Except RestoreError (Reply × History)
  | .add query response time fileName sheetName =>
    let e := Exchange.asked query response time fileName sheetName
    .ok (.exchange e, h.add e)
  | .clear => .ok (.nothing, h.clear)
  | .normalize question => .ok (.text (normalizeQuestion question), h)
  | .save => .ok (.saved h.save, h)
  | .export => .ok (.text h.exported, h)
  -- what was taken is a copy, so emptying it is not seen here
  | .emptyTaken => .ok (.taken [], h)
  | .reopen => do return (.nothing, ← restore h.save)

/-- The history after a sequence of commands, if all of them succeed. -/
def after (h : History) (commands : List Command) : Except RestoreError History :=
  commands.foldlM (fun h c => (h.perform c).map (·.2)) h

/-- The exchange that a command adds, if it adds one. -/
def Command.added? : Command → Option Exchange
  | .add query response time fileName sheetName =>
    some (.asked query response time fileName sheetName)
  | _ => none

/-- Whether a command clears the history. -/
def Command.clears : Command → Bool
  | .clear => true
  | _ => false

/-- The exchanges added behind the last command that clears, in order. -/
def addedSinceClear (commands : List Command) : List Exchange :=
  (commands.rtakeWhile (!·.clears)).filterMap Command.added?

@[simp] theorem addedSinceClear_nil : addedSinceClear [] = [] := rfl

theorem addedSinceClear_concat_of_clears (commands : List Command) {c : Command}
    (hc : c.clears = true) : addedSinceClear (commands ++ [c]) = [] := by
  rw [addedSinceClear, List.rtakeWhile_concat_neg _ _ _ (by rw [hc]; decide), List.filterMap_nil]

theorem addedSinceClear_concat_of_not_clears (commands : List Command) {c : Command}
    (hc : c.clears = false) :
    addedSinceClear (commands ++ [c]) = addedSinceClear commands ++ c.added?.toList := by
  rw [addedSinceClear, List.rtakeWhile_concat_pos _ _ _ (by rw [hc]; rfl), List.filterMap_append]
  rfl

/-- The times that the commands add have no offset, or one of whole seconds. -/
def WholeOffsetsIn (commands : List Command) : Prop :=
  ∀ c ∈ commands, ∀ e ∈ c.added?, e.time.HasWholeOffset

instance (commands : List Command) : Decidable (WholeOffsetsIn commands) :=
  inferInstanceAs (Decidable (∀ c ∈ commands, ∀ e ∈ c.added?, e.time.HasWholeOffset))

/-- What was added since the last clearing was added by one of the commands. -/
theorem WholeOffsetsIn.history {commands : List Command} (hwhole : WholeOffsetsIn commands)
    (hadded : h.exchanges = addedSinceClear commands) : h.HasWholeOffsets := by
  intro e he
  rw [hadded] at he
  obtain ⟨c, hc, he⟩ := List.mem_filterMap.1 he
  exact hwhole c ((List.rtakeWhile_suffix _ commands).subset hc) e he

/-! ### Runs -/

theorem after_concat {commands : List Command} {c : Command} {middle result : History}
    {reply : Reply} (hbefore : h.after commands = .ok middle)
    (hlast : middle.perform c = .ok (reply, result)) :
    h.after (commands ++ [c]) = .ok result := by
  rw [after, List.foldlM_append, ← after, hbefore]
  show (List.foldlM (fun h c => (h.perform c).map (·.2)) middle [c]) = .ok result
  rw [List.foldlM_cons, hlast]
  rfl

/-- What one command does to the exchanges. -/
theorem perform_spec (hwhole : h.HasWholeOffsets) (c : Command) :
    ∃ reply result, h.perform c = .ok (reply, result) ∧
      result.exchanges = if c.clears then [] else h.exchanges ++ c.added?.toList := by
  have hkept : h.exchanges = h.exchanges ++ [] := (List.append_nil _).symm
  cases c with
  | add query response time fileName sheetName => exact ⟨_, _, rfl, rfl⟩
  | clear => exact ⟨_, _, rfl, rfl⟩
  | normalize question => exact ⟨_, _, rfl, hkept⟩
  | save => exact ⟨_, _, rfl, hkept⟩
  | «export» => exact ⟨_, _, rfl, hkept⟩
  | emptyTaken => exact ⟨_, _, rfl, hkept⟩
  -- the one command that can fail: what was saved has to be read back
  | reopen =>
    refine ⟨.nothing, h, ?_, hkept⟩
    rw [perform, restore_save hwhole]
    rfl

/-- A sequence of commands succeeds, and the exchanges are those that count. -/
theorem after_spec {commands : List Command} (hwhole : WholeOffsetsIn commands) :
    ∃ result, after {} commands = .ok result ∧ result.exchanges = addedSinceClear commands := by
  -- the last command decides whether what came before counts
  induction commands using List.reverseRecOn with
  | nil => exact ⟨{}, rfl, rfl⟩
  | append_singleton commands c ih =>
    have hbefore : WholeOffsetsIn commands := fun d hd => hwhole d (List.mem_append_left _ hd)
    obtain ⟨middle, hmiddle, hadded⟩ := ih hbefore
    obtain ⟨reply, result, hlast, hexchanges⟩ := perform_spec (hbefore.history hadded) c
    refine ⟨result, after_concat hmiddle hlast, ?_⟩
    rw [hexchanges]
    cases hclears : c.clears with
    | true => rw [addedSinceClear_concat_of_clears commands hclears, if_pos rfl]
    | false =>
      rw [addedSinceClear_concat_of_not_clears commands hclears, if_neg Bool.false_ne_true, hadded]

/-- **The law of a run.**  After any sequence of commands whose times have no
offset or one of whole seconds, every command has succeeded, and the exchanges
are those added since the history was last cleared, in order and with all
their parts.  Saving what is read back from the saved history gives the saved
history again. -/
theorem exchanges_after (commands : List Command) (hwhole : WholeOffsetsIn commands) :
    ∃ result, after {} commands = .ok result ∧
      result.exchanges = addedSinceClear commands ∧
      (restore result.save).map save = .ok result.save := by
  obtain ⟨result, hresult, hexchanges⟩ := after_spec hwhole
  refine ⟨result, hresult, hexchanges, ?_⟩
  rw [restore_save (hwhole.history hexchanges)]
  rfl

/-- Two exchanges survive saving and opening again, one of them with a fraction
and a negative offset; the one in front of them was cleared. -/
theorem exchanges_after_reopened :
    let morning : Moment := .naive { year := 2024, month := 2, day := 29 }
      { hour := 9, minute := 5, second := 0, microsecond := 0 }
    let evening : Moment :=
      ⟨{ year := 987, month := 12, day := 1 },
        { hour := 23, minute := 59, second := 7, microsecond := 40 }, some (-4196000000), by decide⟩
    let commands : List Command := [
      .add "rows" "3" morning none none, .clear,
      .add "top 3" "a, b" evening (some "sales.xlsx") none, .reopen, .emptyTaken,
      .add "show b" "b" morning (some "sales.xlsx") (some "May"), .save, .reopen, .export,
      .normalize (some " show  b "), .reopen]
    WholeOffsetsIn commands ∧ ∃ result, after {} commands = .ok result ∧
      result.exchanges = [
        .asked "top 3" "a, b" evening (some "sales.xlsx") none,
        .asked "show b" "b" morning (some "sales.xlsx") (some "May")] ∧
      (restore result.save).map save = .ok result.save := by
  intro morning evening commands
  have hwhole : WholeOffsetsIn commands := by decide
  exact ⟨hwhole, exchanges_after commands hwhole⟩

end History

end TableQuery
