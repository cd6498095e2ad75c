import Spreadsheet.Proofs.EventLog.Entry
import Spreadsheet.Proofs.EventLog.Tail
import Spreadsheet.Proofs.Files
import Spreadsheet.Session.Basic

/-!
# Reading what was logged

Entries that are logged one by one make a log of their lines.  What a query finds in it is
what is stored for the entries that it wants, the latest first, out of the last ones: those
whose lines lie within the bytes that are read.  An entry whose line the bytes begin with is
not among them, unless its line is the first of the log.  The events of one moment are logged
in this way (`Files.logAll_eq`), and what is asked of a folder reads its log with the usual
number of bytes (`Files.queryLog_eq`).

Results: what was logged is read back, without damage, gaps or repetition
(`Files.readLog_logEntries`), and an entry is among those that are looked at exactly if its
line lies within the bytes and does not begin with them (`Files.readLog_all`).
-/

namespace Spreadsheet

namespace EventLog

/-- The lines of entries. -/
def linesOf (entries : List Entry) : List (List Char) := entries.map Entry.line

/-- The text of a log of entries. -/
def textOf (entries : List Entry) : String := String.ofList (ofLines (linesOf entries))

/-- The number of bytes of a log of entries. -/
def sizeOf (entries : List Entry) : Nat := byteSize (textOf entries).toList

/-- The entries whose lines are kept when no more than the last bytes of their log are read. -/
def kept (bytes : Int) (entries : List Entry) : List Entry :=
  entries.drop (lost bytes (linesOf entries))

/-- The query for the latest events of any level and kind, as many as are ever found. -/
def Query.all : Query := ⟨"", "", greatestLimit⟩

/-- All entries can be stored. -/
def AreStorable (entries : List Entry) : Prop := ∀ e ∈ entries, e.event.IsStorable

section Lemmas

variable {entries : List Entry}

theorem sizeOf_eq_size
    (entries : List Entry) :
    sizeOf entries = size (linesOf entries) := by
  rw [sizeOf, textOf, String.toList_ofList, size]

theorem linesOf_drop
    (entries : List Entry) (n : Nat) :
    linesOf (entries.drop n) = (linesOf entries).drop n :=
  List.map_drop

theorem AreStorable.areGraphic
    (h : AreStorable entries) :
    AreGraphic (linesOf entries) := by
  intro line hline
  obtain ⟨e, he, rfl⟩ := List.mem_map.1 hline
  exact (Entry.line_of_isStorable (h e he)).1

theorem AreStorable.drop
    (h : AreStorable entries)
    (n : Nat) :
    AreStorable (entries.drop n) :=
  fun e he => h e (List.mem_of_mem_drop he)

/-- The records of a log are what is stored for its entries. -/
theorem AreStorable.records
    (h : AreStorable entries) :
    records (ofLines (linesOf entries)) = .ok (entries.map Entry.stored) := by
  refine records_ofLines h.areGraphic ?_
  rw [linesOf, List.forall₂_map_left_iff, List.forall₂_map_right_iff, List.forall₂_same]
  exact fun e he => (Entry.line_of_isStorable (h e he)).2

/-- A query finds what is stored for the latest entries that it wants, out of those kept. -/
theorem AreStorable.read
    (h : AreStorable entries)
    (bytes : Int) {q : Query}
    (hlimit : 1 ≤ q.limit) :
    read (textOf entries) bytes q
      = .ok ((((kept bytes entries).reverse.filter q.admits).take
          (min q.limit greatestLimit).toNat).map Entry.stored) := by
  have hrecords := (h.drop (lost bytes (linesOf entries))).records
  have hgreatest : 1 ≤ min q.limit greatestLimit := le_min hlimit (by decide)
  rw [linesOf_drop, ← tail_ofLines h.areGraphic] at hrecords
  rw [EventLog.read, textOf, String.toList_ofList, bind_of_eq_ok hrecords, select,
    ← List.map_reverse]
  exact Query.take_stored hgreatest _

/-- An entry is kept exactly if its line lies within the last bytes and does not begin with
them, or is the first of the log. -/
theorem AreStorable.lost_le_iff
    (h : AreStorable entries)
    {bytes : Int} {i : Nat}
    (hi : i < entries.length) :
    lost bytes (linesOf entries) ≤ i ↔ (sizeOf (entries.drop i) : Int) ≤ bytes
      ∧ ((sizeOf (entries.drop i) : Int) = bytes → i = 0) := by
  have hline : i < (linesOf entries).length := by
    rwa [linesOf, List.length_map]
  rw [sizeOf_eq_size, linesOf_drop]
  exact EventLog.lost_le_iff h.areGraphic hline

end Lemmas

end EventLog

namespace Files

/-- The log of a folder can be written, and this is its text; it is empty where there is no
log yet. -/
def HasLog (f : Files) (folder : Path) (text : String) : Prop :=
  ∃ place, f.StandsAt (logFile folder) place text

/-- The files with entries added to the log of a folder one by one. -/
def logEntries (f : Files) (folder : Path) (entries : List EventLog.Entry) : Files :=
  entries.foldl (fun f e => f.log folder e.stamp e.event) f

/-- What a query finds in the last bytes of the event log of a folder. -/
def readLog (f : Files) (folder : Path) (bytes : Int) (q : EventLog.Query) :
    Except Fault (List Json) :=
  match f.readIfAny (logFile folder) with
  | .ok text => EventLog.read (text.getD "") bytes q
  | .error cause => .error (.fileFault cause)

/-- Files with a folder for the log and no log yet. -/
def beforeLogging : Files := (empty "/sheets").addFolder (logFolder .here)

/-- Two sorts, told of in lines of the same length. -/
def twoSorts : List EventLog.Entry :=
  [⟨.info .sortApplied "A\n" [("column", Json.ofInt 0)], "t"⟩,
    ⟨.info .sortApplied "B\n" [("column", Json.ofInt 1)], "t"⟩]

section Lemmas

variable {f : Files} {folder : Path} {text : String} {entries : List EventLog.Entry}

theorem logAll_eq
    (f : Files) (folder : Path) (stamp : String) (events : List Event) :
    f.logAll folder stamp events = f.logEntries folder (events.map fun e => ⟨e, stamp⟩) := by
  rw [logAll, logEntries, List.foldl_map]

theorem queryLog_eq
    (f : Files) (folder : Path) (q : EventLog.Query) :
    f.queryLog folder q = f.readLog folder EventLog.defaultTail q := rfl

theorem HasLog.readLog
    (h : f.HasLog folder text)
    (bytes : Int) (q : EventLog.Query) :
    f.readLog folder bytes q = EventLog.read text bytes q := by
  obtain ⟨place, hplace⟩ := h
  obtain ⟨found, hfound, rfl⟩ := hplace.readIfAny
  rw [Files.readLog, hfound]

/-- An entry adds its line and a line feed. -/
theorem HasLog.log
    {e : EventLog.Entry}
    (h : f.HasLog folder text)
    (he : e.event.IsStorable) :
    (f.log folder e.stamp e.event).HasLog folder (text ++ String.ofList (e.line ++ ['\n'])) := by
  obtain ⟨place, hplace⟩ := h
  obtain ⟨line, hline, -⟩ := EventLog.Entry.exists_print_stored he
  have htext : String.ofList (e.line ++ ['\n']) = line ++ "\n" := by
    rw [EventLog.Entry.line, hline, String.ofList_append, String.ofList_toList]
  rw [htext, Files.log, hline]
  exact ⟨place, hplace.append (line ++ "\n")⟩

/-- Entries add their lines, the first one first. -/
theorem HasLog.logEntries
    (h : f.HasLog folder text)
    (hentries : EventLog.AreStorable entries) :
    (f.logEntries folder entries).HasLog folder (text ++ EventLog.textOf entries) := by
  induction entries generalizing f text with
  | nil =>
      have hnone : EventLog.textOf [] = "" := rfl
      rw [hnone, String.append_empty]
      exact h
  | cons e entries ih =>
      have hlogged := h.log (hentries e List.mem_cons_self)
      have hmore := ih hlogged fun other hother => hentries other (List.mem_cons_of_mem _ hother)
      have htext : EventLog.textOf (e :: entries)
          = String.ofList (e.line ++ ['\n']) ++ EventLog.textOf entries := by
        rw [EventLog.textOf, EventLog.linesOf, List.map_cons, EventLog.ofLines_cons,
          ← List.singleton_append, ← List.append_assoc, String.ofList_append]
        rfl
      rw [htext, ← String.append_assoc]
      exact hmore

/-- The log of entries holds their lines. -/
theorem HasLog.logEntries_of_empty
    (h : f.HasLog folder "")
    (hentries : EventLog.AreStorable entries) :
    (f.logEntries folder entries).HasLog folder (EventLog.textOf entries) := by
  have hlog := h.logEntries hentries
  rwa [String.empty_append] at hlog

/-- A query finds what is stored for the latest entries that it wants, out of those kept. -/
theorem HasLog.readLog_logEntries_eq
    (h : f.HasLog folder "")
    (hentries : EventLog.AreStorable entries)
    (bytes : Int) {q : EventLog.Query}
    (hlimit : 1 ≤ q.limit) :
    (f.logEntries folder entries).readLog folder bytes q
      = .ok ((((EventLog.kept bytes entries).reverse.filter q.admits).take
          (min q.limit EventLog.greatestLimit).toNat).map EventLog.Entry.stored) :=
  ((h.logEntries_of_empty hentries).readLog bytes q).trans (hentries.read bytes hlimit)

/-- All that is kept is found, if there is room for all entries. -/
theorem HasLog.readLog_all_eq
    (h : f.HasLog folder "")
    (hentries : EventLog.AreStorable entries)
    (hlength : (entries.length : Int) ≤ EventLog.greatestLimit)
    (bytes : Int) :
    (f.logEntries folder entries).readLog folder bytes EventLog.Query.all
      = .ok ((EventLog.kept bytes entries).reverse.map EventLog.Entry.stored) := by
  have hall : (EventLog.kept bytes entries).reverse.filter EventLog.Query.all.admits
      = (EventLog.kept bytes entries).reverse :=
    List.filter_eq_self.2 fun e _ => rfl
  have hroom : (EventLog.kept bytes entries).reverse.length
      ≤ (min EventLog.Query.all.limit EventLog.greatestLimit).toNat := by
    rw [List.length_reverse, EventLog.kept, List.length_drop]
    simp only [EventLog.Query.all, min_self]
    omega
  rw [h.readLog_logEntries_eq hentries bytes (by decide), hall, List.take_of_length_le hroom]

/-- What was logged is read back: the log holds the entries, and from its last bytes a query
finds the latest entries that it wants among the last ones, whole and each of them once. -/
theorem readLog_logEntries
    (hlog : f.HasLog folder "")
    (hentries : EventLog.AreStorable entries)
    (hfinite : ∀ e ∈ entries, e.event.HasFiniteNumbers)
    (bytes : Int) :
    (f.logEntries folder entries).HasLog folder (EventLog.textOf entries)
      ∧ ∃ kept, kept <:+ entries
        ∧ ((EventLog.sizeOf entries : Int) ≤ bytes → kept = entries)
        ∧ ∀ q : EventLog.Query, 1 ≤ q.limit →
          (f.logEntries folder entries).readLog folder bytes q
            = .ok (((kept.reverse.filter q.admits).take
                (min q.limit EventLog.greatestLimit).toNat).map
                  fun e => (e.event.record e.stamp).sortKeys) := by
  refine ⟨hlog.logEntries_of_empty hentries, EventLog.kept bytes entries,
    List.drop_suffix _ _, ?_, fun q hlimit => ?_⟩
  · intro hall
    rw [EventLog.sizeOf_eq_size] at hall
    rw [EventLog.kept, EventLog.lost, if_pos hall, List.drop_zero]
  · rw [hlog.readLog_logEntries_eq hentries bytes hlimit]
    refine congrArg Except.ok (List.map_congr_left fun e he => ?_)
    have hkept := List.mem_reverse.1 (List.mem_filter.1 (List.mem_of_mem_take he)).1
    exact Event.stored_record_of_hasFiniteNumbers (hfinite e (List.mem_of_mem_drop hkept))

theorem hasLog_beforeLogging :
    beforeLogging.HasLog .here "" :=
  ⟨⟨false, ["logs", "events.ndjson"]⟩, rfl, rfl, rfl⟩

/-- An event about one integer is stored as it is. -/
theorem isStorable_of_context
    {e : Event} {key : String} {i : Int}
    (hcontext : e.context = [(key, Json.ofInt i)])
    (hi : IsWritable i) :
    e.IsStorable ∧ e.HasFiniteNumbers := by
  have honly : ∀ x, Json.Holds x (.object e.context) → x = .int i := by
    intro x hx
    rw [hcontext, Json.holds_cons_field_iff] at hx
    exact hx.elim Json.holds_number_iff.1 fun hnone => absurd hnone Json.not_holds_nil.2
  refine ⟨⟨?_, fun x hx => ?_⟩, fun x hx => ?_⟩
  · rw [hcontext]
    exact ⟨List.nodup_singleton _, trivial, trivial⟩
  · rw [honly x hx]
    exact hi
  · rw [honly x hx]
    rfl

theorem areStorable_twoSorts :
    EventLog.AreStorable twoSorts ∧ ∀ e ∈ twoSorts, e.event.HasFiniteNumbers := by
  have hzero : IsWritable 0 := isWritable_of_lt_pow 1 (by decide) (by decide)
  have hone : IsWritable 1 := isWritable_of_lt_pow 1 (by decide) (by decide)
  have hboth : ∀ e ∈ twoSorts, e.event.IsStorable ∧ e.event.HasFiniteNumbers :=
    List.forall_mem_cons.2 ⟨isStorable_of_context rfl hzero,
      List.forall_mem_singleton.2 (isStorable_of_context rfl hone)⟩
  exact ⟨fun e he => (hboth e he).1, fun e he => (hboth e he).2⟩

/-- Of the two sorts a query for one event finds the second one. -/
theorem readLog_logEntries_twoSorts :
    beforeLogging.HasLog .here "" ∧ EventLog.AreStorable twoSorts
      ∧ (∀ e ∈ twoSorts, e.event.HasFiniteNumbers)
      ∧ (beforeLogging.logEntries .here twoSorts).readLog .here (EventLog.sizeOf twoSorts)
          ⟨"info", "", 1⟩
        = .ok
          [((Event.info .sortApplied "B\n" [("column", Json.ofInt 1)]).record "t").sortKeys] := by
  obtain ⟨hstorable, hfinite⟩ := areStorable_twoSorts
  obtain ⟨-, kept, -, hall, hread⟩ :=
    readLog_logEntries hasLog_beforeLogging hstorable hfinite (EventLog.sizeOf twoSorts)
  obtain rfl := hall (le_refl _)
  exact ⟨hasLog_beforeLogging, hstorable, hfinite, hread ⟨"info", "", 1⟩ (by decide)⟩

/-- All that is found in the last bytes of a log is what is stored for the last entries; an
entry is among them exactly if its line lies within the bytes and does not begin with them,
or is the first of the log. -/
theorem readLog_all
    (hlog : f.HasLog folder "")
    (hentries : EventLog.AreStorable entries)
    (hlength : (entries.length : Int) ≤ EventLog.greatestLimit)
    (bytes : Int) :
    ∃ n, (f.logEntries folder entries).readLog folder bytes EventLog.Query.all
        = .ok ((entries.drop n).reverse.map EventLog.Entry.stored)
      ∧ ∀ i < entries.length, (n ≤ i ↔ (EventLog.sizeOf (entries.drop i) : Int) ≤ bytes
        ∧ ((EventLog.sizeOf (entries.drop i) : Int) = bytes → i = 0)) := by
  refine ⟨EventLog.lost bytes (EventLog.linesOf entries), ?_, fun i hi => ?_⟩
  · exact hlog.readLog_all_eq hentries hlength bytes
  · exact hentries.lost_le_iff hi

/-- The first line of the log is kept where the bytes begin with it. -/
theorem readLog_all_twoSorts :
    beforeLogging.HasLog .here "" ∧ EventLog.AreStorable twoSorts
      ∧ (twoSorts.length : Int) ≤ EventLog.greatestLimit
      ∧ (beforeLogging.logEntries .here twoSorts).readLog .here (EventLog.sizeOf twoSorts)
          EventLog.Query.all
        = .ok (twoSorts.reverse.map EventLog.Entry.stored) := by
  obtain ⟨hstorable, -⟩ := areStorable_twoSorts
  obtain ⟨n, hread, hkept⟩ :=
    readLog_all hasLog_beforeLogging hstorable (by decide) (EventLog.sizeOf twoSorts)
  obtain rfl := Nat.le_zero.1 ((hkept 0 (by decide)).2 ⟨le_refl _, fun _ => rfl⟩)
  exact ⟨hasLog_beforeLogging, hstorable, by decide, hread⟩

/-- Not every entry whose line lies within the bytes is found: the line of the second sort is
given up where the bytes begin with it. -/
theorem not_readLog_all_of_sizeOf_le :
    ¬ ∀ (f : Files) (folder : Path) (entries : List EventLog.Entry) (bytes : Int) (i : Nat),
      f.HasLog folder "" → EventLog.AreStorable entries →
      (entries.length : Int) ≤ EventLog.greatestLimit → i < entries.length →
      (EventLog.sizeOf (entries.drop i) : Int) ≤ bytes →
      ∃ found, (f.logEntries folder entries).readLog folder bytes EventLog.Query.all = .ok found
        ∧ (entries.drop i).reverse.map EventLog.Entry.stored <+: found := by
  intro hclaim
  obtain ⟨hstorable, -⟩ := areStorable_twoSorts
  obtain ⟨found, hfound, hprefix⟩ :=
    hclaim beforeLogging .here twoSorts (EventLog.sizeOf (twoSorts.drop 1)) 1
      hasLog_beforeLogging hstorable (by decide) (by decide) (le_refl _)
  have hlost : ¬ EventLog.lost (EventLog.sizeOf (twoSorts.drop 1)) (EventLog.linesOf twoSorts)
      ≤ 1 := by
    rw [hstorable.lost_le_iff (by decide)]
    exact fun h => absurd (h.2 rfl) (by decide)
  have hkept : EventLog.kept (EventLog.sizeOf (twoSorts.drop 1)) twoSorts = [] :=
    List.drop_of_length_le (Nat.not_le.1 hlost)
  rw [hasLog_beforeLogging.readLog_all_eq hstorable (by decide), hkept] at hfound
  obtain rfl := Except.ok.inj hfound
  exact absurd (List.prefix_nil.1 hprefix) (by simp [twoSorts])

end Lemmas

end Files

end Spreadsheet
