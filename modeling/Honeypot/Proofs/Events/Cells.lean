import Mathlib.Data.List.DropRight
import Honeypot.Proofs.Events.Ledgers
import Honeypot.Proofs.Words

/-!
# The ledger as a sheet of cells

A reader of sheets takes back from the ledger what was put into it, whatever characters the cells
hold: a written row is one row of the same cells (`takeAll_line`), and over every history the ledger
is its header and the rows since the day last changed (`ledger_reads_back`). The reader is strict:
it refuses what readers of sheets do not agree on, so that all of them read the same here.
-/

namespace Honeypot.Events

namespace Ledger

/-! ## Reading a sheet -/

/-- Where a reader is in a sheet. -/
inductive Place where
  /-- At the start of a cell. -/
  | start
  /-- In a cell that began without quotes. -/
  | bare
  /-- Between the quotes around a cell. -/
  | quoted
  /-- Behind a quote that closes the cell unless another one follows. -/
  | closed
  /-- Behind the first character of a line break. -/
  | broken
  deriving Repr, DecidableEq

/-- A reader of a sheet: what it has read of a cell, the cells before in the row and the rows
before. -/
structure Reader where
  place : Place
  cell : List Char
  row : List String
  rows : List (List String)
  deriving Repr, DecidableEq

namespace Reader

def fresh : Reader := ⟨.start, [], [], []⟩

/-- Takes a character outside quotes: a comma ends the cell, and a line break of two characters the
row. A quote, a line feed alone and anything else behind a closed cell are refused. -/
def takeBare (r : Reader) (c : Char) : Option Reader :=
  if c = ',' then some ⟨.start, [], r.row ++ [String.ofList r.cell], r.rows⟩
  else if c = '\r' then some ⟨.broken, [], r.row ++ [String.ofList r.cell], r.rows⟩
  else if c = '"' ∨ c = '\n' ∨ r.place = .closed then none
  else some ⟨.bare, r.cell ++ [c], r.row, r.rows⟩

/-- Takes a character. A cell that begins with a quote goes up to the next quote, where two quotes
stand for one. -/
def take (r : Reader) (c : Char) : Option Reader :=
  match r.place with
  | .start => if c = '"' then some { r with place := .quoted } else r.takeBare c
  | .bare => r.takeBare c
  | .quoted =>
    some (if c = '"' then { r with place := .closed } else { r with cell := r.cell ++ [c] })
  | .closed =>
    if c = '"' then some { r with place := .quoted, cell := r.cell ++ ['"'] } else r.takeBare c
  | .broken => if c = '\n' then some ⟨.start, [], [], r.rows ++ [r.row]⟩ else none

/-- The rows that were read when the text is at its end. The last row may be without a line break,
but a cell must be closed. -/
def finish (r : Reader) : Option (List (List String)) :=
  match r.place with
  | .start => some (if r.row = [] then r.rows else r.rows ++ [r.row ++ [""]])
  | .bare => some (r.rows ++ [r.row ++ [String.ofList r.cell]])
  | .quoted => none
  | .closed => some (r.rows ++ [r.row ++ [String.ofList r.cell]])
  | .broken => none

end Reader

def read? (text : String) : Option (List (List String)) :=
  (text.toList.foldlM Reader.take .fresh).bind Reader.finish

/-- Rows one after the other, as they are written. -/
def sheet (rows : List (List String)) : String := String.join (rows.map line)

/-! ## Reading what was written -/

namespace Reader

variable {place : Place} {cell : List Char} {row : List String} {rows : List (List String)}

def takeAll (r : Reader) (cs : List Char) : Option Reader := cs.foldlM take r

theorem takeAll_cons (r : Reader) (c : Char) (cs : List Char) :
    r.takeAll (c :: cs) = (r.take c).bind fun r => r.takeAll cs := List.foldlM_cons

theorem takeAll_append (r : Reader) (first second : List Char) :
    r.takeAll (first ++ second) = (r.takeAll first).bind fun r => r.takeAll second :=
  List.foldlM_append

def MayEnd (place : Place) : Prop := place ≠ .quoted ∧ place ≠ .broken

theorem take_comma (h : MayEnd place) : (⟨place, cell, row, rows⟩ : Reader).take ',' =
    some ⟨.start, [], row ++ [String.ofList cell], rows⟩ := by
  cases place with
  | quoted => exact absurd rfl h.1
  | broken => exact absurd rfl h.2
  | _ => rfl

theorem takeAll_break (h : MayEnd place) :
    (⟨place, cell, row, rows⟩ : Reader).takeAll ['\r', '\n'] =
      some ⟨.start, [], [], rows ++ [row ++ [String.ofList cell]]⟩ := by
  cases place with
  | quoted => exact absurd rfl h.1
  | broken => exact absurd rfl h.2
  | _ => rfl

/-- Characters that need no quotes are taken as they are. -/
theorem takeAll_bare {cs : List Char} (h : ∀ c ∈ cs, needsQuotes c = false)
    (hplace : place = .start ∨ place = .bare) :
    ∃ after, MayEnd after ∧
      (⟨place, cell, row, rows⟩ : Reader).takeAll cs = some ⟨after, cell ++ cs, row, rows⟩ := by
  induction cs generalizing cell place with
  | nil =>
    refine ⟨place, ?_, by rw [List.append_nil]; rfl⟩
    obtain rfl | rfl := hplace <;> exact ⟨nofun, nofun⟩
  | cons c cs ih =>
    have hplain := h c (List.mem_cons_self ..)
    simp only [needsQuotes, Bool.or_eq_false_iff, beq_eq_false_iff_ne] at hplain
    obtain ⟨⟨⟨hcomma, hquote⟩, hreturn⟩, hfeed⟩ := hplain
    have hbare (hopen : place ≠ .closed) : (⟨place, cell, row, rows⟩ : Reader).takeBare c =
        some ⟨.bare, cell ++ [c], row, rows⟩ := by
      unfold takeBare
      rw [if_neg hcomma, if_neg hreturn, if_neg (not_or.mpr ⟨hquote, not_or.mpr ⟨hfeed, hopen⟩⟩)]
    have htake : (⟨place, cell, row, rows⟩ : Reader).take c =
        some ⟨.bare, cell ++ [c], row, rows⟩ := by
      obtain rfl | rfl := hplace
      · exact (if_neg hquote).trans (hbare nofun)
      · exact hbare nofun
    obtain ⟨after, hafter, hrest⟩ := @ih .bare (cell ++ [c])
      (fun x hx => h x (List.mem_cons_of_mem c hx)) (.inr rfl)
    refine ⟨after, hafter, ?_⟩
    rw [takeAll_cons, htake, Option.bind_some, hrest, List.append_assoc]
    rfl

/-- Between quotes nothing ends, and every quote stands twice. -/
theorem takeAll_doubled (cs : List Char) :
    (⟨.quoted, cell, row, rows⟩ : Reader).takeAll
        (cs.flatMap (fun c => if c = '"' then ['"', '"'] else [c]) ++ ['"']) =
      some ⟨.closed, cell ++ cs, row, rows⟩ := by
  induction cs generalizing cell with
  | nil =>
    rw [List.append_nil]
    rfl
  | cons c cs ih =>
    rw [List.flatMap_cons, List.append_assoc, takeAll_append]
    have hchar : (⟨.quoted, cell, row, rows⟩ : Reader).takeAll
        (if c = '"' then ['"', '"'] else [c]) = some ⟨.quoted, cell ++ [c], row, rows⟩ := by
      by_cases hc : c = '"'
      · rw [if_pos hc, hc]
        rfl
      · rw [if_neg hc]
        exact congrArg (fun r => (some r).bind some) (if_neg hc)
    rw [hchar, Option.bind_some, ih, List.append_assoc]
    rfl

/-- **A written cell is read back**, up to what ends it. -/
theorem takeAll_written (s : String) :
    ∃ after, MayEnd after ∧ (⟨.start, [], row, rows⟩ : Reader).takeAll (written s).toList =
      some ⟨after, s.toList, row, rows⟩ := by
  unfold written
  dsimp only
  by_cases hquotes : s.toList.any needsQuotes = true
  · refine ⟨.closed, ⟨nofun, nofun⟩, ?_⟩
    rw [if_pos hquotes, String.toList_ofList, List.cons_append, takeAll_cons]
    exact takeAll_doubled s.toList
  · rw [if_neg hquotes]
    rw [Bool.not_eq_true, List.any_eq_false] at hquotes
    exact takeAll_bare (fun c hc => Bool.eq_false_iff.mpr (hquotes c hc)) (.inl rfl)

end Reader

theorem toList_line_singleton (s : String) :
    (line [s]).toList = (written s).toList ++ ['\r', '\n'] := by
  unfold line
  rw [List.map_singleton, Text.join_singleton, String.toList_append]
  rfl

theorem toList_line_cons_cons (s t : String) (more : List String) :
    (line (s :: t :: more)).toList = (written s).toList ++ ',' :: (line (t :: more)).toList := by
  have hjoin : line (s :: t :: more) = written s ++ "," ++ line (t :: more) := by
    unfold line
    rw [List.map_cons, List.map_cons, Text.join_cons_cons, String.append_assoc]
  rw [hjoin, String.toList_append, String.toList_append, List.append_assoc]
  rfl

/-- **A written row is read back**: it is one row of the cells that were put into it. -/
theorem Reader.takeAll_line {cells row : List String} {rows : List (List String)}
    (h : cells ≠ []) : (⟨.start, [], row, rows⟩ : Reader).takeAll (line cells).toList =
      some ⟨.start, [], [], rows ++ [row ++ cells]⟩ := by
  induction cells generalizing row with
  | nil => exact absurd rfl h
  | cons s more ih =>
    obtain ⟨after, hafter, hcell⟩ := @takeAll_written row rows s
    cases more with
    | nil =>
      rw [toList_line_singleton, takeAll_append, hcell, Option.bind_some, takeAll_break hafter,
        String.ofList_toList]
    | cons t more =>
      rw [toList_line_cons_cons, takeAll_append, hcell, Option.bind_some, takeAll_cons,
        take_comma hafter, Option.bind_some, ih (List.cons_ne_nil t more), String.ofList_toList,
        List.append_assoc, List.singleton_append]

theorem Reader.takeAll_sheet {rows : List (List String)} (h : ∀ row ∈ rows, row ≠ [])
    (before : List (List String)) :
    (⟨.start, [], [], before⟩ : Reader).takeAll (sheet rows).toList =
      some ⟨.start, [], [], before ++ rows⟩ := by
  induction rows generalizing before with
  | nil =>
    rw [List.append_nil]
    rfl
  | cons row rows ih =>
    have hsheet : sheet (row :: rows) = line row ++ sheet rows := by
      unfold sheet
      rw [List.map_cons, String.join_cons]
    rw [hsheet, String.toList_append, takeAll_append, takeAll_line (h row (List.mem_cons_self ..)),
      Option.bind_some, ih fun other hother => h other (List.mem_cons_of_mem row hother),
      List.append_assoc]
    rfl

theorem read?_sheet {rows : List (List String)} (h : ∀ row ∈ rows, row ≠ []) :
    read? (sheet rows) = some rows :=
  (congrArg (Option.bind · Reader.finish) (Reader.takeAll_sheet h [])).trans rfl

example : read? (sheet [["a", "b\"\r\n,", ""], ["", "c"]]) =
    some [["a", "b\"\r\n,", ""], ["", "c"]] := by decide

theorem sheet_concat (rows : List (List String)) (row : List String) :
    sheet (rows ++ [row]) = sheet rows ++ line row := by
  unfold sheet
  rw [List.map_append, String.join_append, List.map_singleton, String.join_cons, String.join_nil,
    String.append_empty]

theorem sheet_singleton (row : List String) : sheet [row] = line row := sheet_concat [] row

end Ledger

/-! ## The rows of a history -/

/-- What an event leaves in the ledger: the day, and the cells of its row if they can be written. -/
structure Entry where
  day : String
  cells? : Option (List String)

/-- What an event leaves in the ledger, unless it has no row. -/
def Record.entry? (room : Nat) (now : Calendar.Reading) (r : Record) : Option Entry :=
  if now.instant.isDated ∧ r.kind ≠ .disconnect then
    (Ledger.values? room now r).map fun values => ⟨now.moment.date, Ledger.cells? room values⟩
  else none

/-- The cells of the row that is written for an event, if there is one. -/
def Record.cells? (room : Nat) (now : Calendar.Reading) (r : Record) : Option (List String) :=
  (r.entry? room now).bind Entry.cells?

def Log.Step.entry? : Log.Step → Option Entry
  | .emit now r => r.entry? valueRoom now
  | .reopen _ => none

/-- What a history leaves in the ledger, the first entry first. -/
def entriesOf (steps : List Log.Step) : List Entry := steps.filterMap Log.Step.entry?

theorem entriesOf_concat (steps : List Log.Step) (step : Log.Step) :
    entriesOf (steps ++ [step]) = entriesOf steps ++ step.entry?.toList := by
  unfold entriesOf
  rw [List.filterMap_append, List.filterMap_cons]
  cases step.entry? <;> rfl

theorem Ledger.isSome_row? (now : Calendar.Reading) (r : Record) :
    (Ledger.row? now r).isSome = true ↔
      (r.get "intel").isVoid = true ∨ ∃ fields, r.get "intel" = .object fields := by
  have hfields : (Ledger.row? now r).isSome = (Ledger.intelFields r).isSome := Option.isSome_map
  rw [hfields]
  unfold Ledger.intelFields Json.orElse
  by_cases hvoid : (r.get "intel").isVoid = true
  · rw [if_pos hvoid]
    exact ⟨fun _ => .inl hvoid, fun _ => rfl⟩
  · rw [if_neg hvoid, or_iff_right hvoid]
    cases r.get "intel" with
    | object fields => exact ⟨fun _ => ⟨fields, rfl⟩, fun _ => rfl⟩
    | _ => exact ⟨nofun, nofun⟩

theorem Record.entry?_eq_some_iff {r : Record} {room : Nat} {now : Calendar.Reading}
    {entry : Entry} : r.entry? room now = some entry ↔
      (now.instant.isDated = true ∧ r.kind ≠ .disconnect) ∧
        ∃ values, Ledger.values? room now r = some values ∧
          ⟨now.moment.date, Ledger.cells? room values⟩ = entry := by
  unfold Record.entry?
  split
  · next hboth => rw [Option.map_eq_some_iff, and_iff_right hboth]
  · next hneither => exact ⟨nofun, fun h => absurd h.1 hneither⟩

theorem Record.cells?_eq_some_iff {r : Record} {room : Nat} {now : Calendar.Reading}
    {cells : List String} : r.cells? room now = some cells ↔
      (now.instant.isDated = true ∧ r.kind ≠ .disconnect) ∧
        ∃ values, Ledger.values? room now r = some values ∧
          Ledger.cells? room values = some cells := by
  unfold Record.cells?
  simp only [Option.bind_eq_some_iff, Record.entry?_eq_some_iff]
  constructor
  · rintro ⟨_, ⟨hboth, values, hvalues, rfl⟩, hcells⟩
    exact ⟨hboth, values, hvalues, hcells⟩
  · rintro ⟨hboth, values, hvalues, hcells⟩
    exact ⟨_, ⟨hboth, values, hvalues, rfl⟩, hcells⟩

/-- An event has a row that can be written if something can be asked about its peer, and if its
values can be written. -/
theorem Record.isSome_cells?_iff {r : Record} {room : Nat} {now : Calendar.Reading} :
    (r.cells? room now).isSome = true ↔ (now.instant.isDated = true ∧ r.kind ≠ .disconnect) ∧
      ((r.get "intel").isVoid = true ∨ ∃ fields, r.get "intel" = .object fields) ∧
      r.isShown room now = true := by
  have hvalues : (∃ values cells, Ledger.values? room now r = some values ∧
      Ledger.cells? room values = some cells) ↔
        (Ledger.row? now r).isSome = true ∧ r.isShown room now = true := by
    unfold Ledger.values? Record.isShown Ledger.cells?
    by_cases hmethod : r.kind = .authentication ∧ (!r.method.fits room) = true
    · rw [if_pos hmethod]
      refine iff_of_false (by rintro ⟨_, _, h, -⟩; cases h) ?_
      simp_all
    · have hkind : (decide (r.kind ≠ .authentication) || r.method.fits room) = true := by
        simpa [or_iff_not_imp_left] using hmethod
      rw [if_neg hmethod, hkind, Bool.true_and]
      cases Ledger.row? now r with
      | none => exact iff_of_false (by rintro ⟨_, _, h, -⟩; cases h) nofun
      | some values => simp
  rw [Option.isSome_iff_exists, ← Ledger.isSome_row? now r, ← hvalues]
  simp only [Record.cells?_eq_some_iff]
  constructor
  · rintro ⟨cells, hboth, values, h⟩
    exact ⟨hboth, values, cells, h⟩
  · rintro ⟨hboth, values, cells, h⟩
    exact ⟨cells, hboth, values, h⟩

theorem Record.length_of_cells? {r : Record} {room : Nat} {now : Calendar.Reading}
    {cells : List String} (h : r.cells? room now = some cells) : cells.length = 11 := by
  obtain ⟨-, values, hvalues, hcells⟩ := Record.cells?_eq_some_iff.mp h
  have hrow : Ledger.row? now r = some values := by
    unfold Ledger.values? at hvalues
    split at hvalues
    · cases hvalues
    · exact hvalues
  obtain ⟨fields, -, rfl⟩ := Option.map_eq_some_iff.mp hrow
  unfold Ledger.cells? at hcells
  split at hcells
  · cases hcells
    rfl
  · cases hcells

namespace Ledger

/-- The entries at the end that are of the day of the last one. -/
def latest (entries : List Entry) : List Entry :=
  entries.rtakeWhile fun entry => some entry.day = entries.getLast?.map Entry.day

theorem latest_concat (entries : List Entry) (entry : Entry) :
    latest (entries ++ [entry]) =
      entries.rtakeWhile (fun other => other.day = entry.day) ++ [entry] := by
  unfold latest
  rw [List.getLast?_concat, List.rtakeWhile_concat]
  simp only [Option.map_some, Option.some.injEq, decide_true, if_true]

/-- The header and the rows of some entries. -/
def pageOf (entries : List Entry) : String := sheet (header :: entries.filterMap Entry.cells?)

theorem pageOf_concat (entries : List Entry) (entry : Entry) :
    pageOf (entries ++ [entry]) = pageOf entries ++ entry.cells?.elim "" line := by
  unfold pageOf
  rw [List.filterMap_append, List.filterMap_cons, List.filterMap_nil]
  cases entry.cells? with
  | none =>
    rw [List.append_nil]
    exact String.append_empty.symm
  | some cells => exact sheet_concat (header :: entries.filterMap Entry.cells?) cells

theorem pageOf_nil : pageOf [] = line header := sheet_singleton header

/-- What entries have left in the ledger: those of the latest day, which is that of its last
change. -/
structure Filed (entries : List Entry) (d : Directory) (noted? : Option String) : Prop where
  fresh : entries = [] → d.lookup name = none ∧ noted? = none
  current : ∀ first last, entries = first ++ [last] → ∃ file, d.lookup name = some file ∧
    file.text = pageOf (latest entries) ∧ file.changed.moment.date = last.day ∧
    ∀ day, noted? = some day → day = last.day

section

variable {keep : Int} {entries : List Entry} {d d' : Directory} {noted? : Option String}

theorem Filed.frame (h : Filed entries d noted?) (hsame : d'.lookup name = d.lookup name) :
    Filed entries d' noted? where
  fresh := by
    rw [hsame]
    exact h.fresh
  current := by
    rw [hsame]
    exact h.current

theorem Filed.forget (h : Filed entries d noted?) : Filed entries d none where
  fresh hentries := ⟨(h.fresh hentries).1, rfl⟩
  current first last hentries := by
    obtain ⟨file, hfile, htext, hchanged, -⟩ := h.current first last hentries
    exact ⟨file, hfile, htext, hchanged, nofun⟩

/-- The ledger stays where it is if its rows are of the day, or if there are none. -/
theorem lookup_turn (keep : Int) (day : String) (noted? : Option String) (d : Directory) :
    (Ledger.turn keep day noted? d).lookup name =
      if (dayOf? noted? d).all (· == day) then d.lookup name else none := by
  cases hold : dayOf? noted? d with
  | none =>
    rw [turn_of_none hold]
    rfl
  | some old =>
    rw [Option.all_some]
    by_cases hday : old = day
    · rw [turn_of_same (hday ▸ hold), if_pos (beq_iff_eq.mpr hday)]
    · rw [if_neg (mt beq_iff_eq.mp hday)]
      cases hfile : d.lookup name with
      | none =>
        have hhas : d.has name = false := by rw [Directory.has, hfile]; rfl
        unfold Ledger.turn
        rw [hold]
        dsimp only
        rw [if_neg (by rw [hhas]; exact fun hboth => Bool.false_ne_true hboth.2), hfile]
      | some file =>
        rw [turn_of_ne hold hday (by rw [Directory.has, hfile]; rfl), Directory.lookup_removeAll,
          Directory.lookup_rename hfile,
          if_neg (ne_name_of_startsWith (startsWith_backup old)).symm, if_pos rfl, ite_self]

/-- Before an entry is written the ledger holds those of its day alone. -/
theorem Filed.turn (h : Filed entries d noted?) (keep : Int) (day : String) :
    let turned := Ledger.turn keep day noted? d
    ((turned.lookup name).map File.text).getD (line header) =
        pageOf (entries.rtakeWhile fun other => other.day = day) ∧
      ∀ file, turned.lookup name = some file → file.changed.moment.date = day := by
  dsimp only
  rw [lookup_turn]
  obtain rfl | ⟨first, last, rfl⟩ := entries.eq_nil_or_concat'
  · rw [(h.fresh rfl).1, ite_self]
    exact ⟨pageOf_nil.symm, nofun⟩
  · obtain ⟨file, hfile, htext, hchanged, hnoted⟩ := h.current first last rfl
    have hlast : dayOf? noted? d = some last.day := by
      unfold dayOf?
      rw [hfile]
      cases noted? with
      | none => exact congrArg some hchanged
      | some noted => exact congrArg some (hnoted noted rfl)
    rw [List.rtakeWhile_concat, hlast, Option.all_some, hfile]
    by_cases hday : last.day = day
    · rw [if_pos (beq_iff_eq.mpr hday), if_pos (decide_eq_true hday)]
      rw [latest_concat, hday] at htext
      refine ⟨htext, fun other hother => ?_⟩
      rw [← Option.some.inj hother, hchanged, hday]
    · rw [if_neg (mt beq_iff_eq.mp hday), if_neg (by simpa using hday)]
      exact ⟨pageOf_nil.symm, nofun⟩

theorem Filed.write (h : Filed entries d noted?) (keep : Int) {room : Nat}
    {now : Calendar.Reading} {r : Record} (hdated : now.instant.isDated = true)
    (hkind : r.kind ≠ .disconnect) :
    Filed (entries ++ (r.entry? room now).toList) (Ledger.write room keep now noted? d r).1
      (Ledger.write room keep now noted? d r).2 := by
  unfold Record.entry?
  rw [if_pos ⟨hdated, hkind⟩]
  cases hvalues : values? room now r with
  | none =>
    unfold Ledger.write
    rwa [hvalues, Option.map_none, Option.toList_none, List.append_nil]
  | some values =>
    obtain ⟨htext, hchanged⟩ := h.turn keep now.moment.date
    rw [write_eq hvalues, Option.map_some, Option.toList_some]
    generalize Ledger.turn keep now.moment.date noted? d = turned at htext hchanged
    refine ⟨fun hnil => ?_, fun first last hentries => ?_⟩
    · exact absurd hnil (List.append_ne_nil_of_right_ne_nil _ (List.cons_ne_nil _ _))
    · rw [← (List.cons.inj (List.append_inj' hentries rfl).2).1, latest_concat, pageOf_concat,
        ← htext]
      cases cells? room values with
      | none =>
        refine ⟨_, lookup_opened now, ?_, ?_, fun day hday => (Option.some.inj hday).symm⟩
        · rw [Option.elim_none, String.append_empty]
          cases turned.lookup name <;> rfl
        · cases hfile : turned.lookup name with
          | none => rfl
          | some file => exact hchanged file hfile
      | some cells =>
        exact ⟨_, lookup_enter now _, rfl, rfl, fun day hday => (Option.some.inj hday).symm⟩

end

theorem lookup_name_journal_write (room : Nat) (keep midnight : Int) (now : Calendar.Reading)
    (d : Directory) (r : Record) :
    (Journal.write room keep midnight now d r).1.lookup name = d.lookup name :=
  lookup_journal_write (by decide) _ _ _ _ _ _

theorem Filed.emit {log : Log} {entries : List Entry}
    (h : Filed entries log.directory log.day?) (now : Calendar.Reading) (r : Record) :
    Filed (entries ++ (r.entry? log.room now).toList) (log.emit now r).directory
      (log.emit now r).day? := by
  by_cases hdated : now.instant.isDated = true
  · rw [(log.emit_of_isDated r hdated).2]
    have hjournal := h.frame
      (lookup_name_journal_write log.room log.keep log.midnight now log.directory r)
    refine Filed.frame ?_ (log.lookup_emit hdated (r.transcript?_ne (by decide)))
    by_cases hkind : r.kind = .disconnect
    · unfold Record.entry? Log.record
      rwa [if_pos hkind, if_neg fun hboth => hboth.2 hkind, Option.toList_none, List.append_nil]
    · rw [log.record_of_ne now hkind]
      exact hjournal.write log.keep hdated hkind
  · unfold Log.emit Record.entry?
    rwa [if_neg hdated, if_neg fun hboth => hdated hboth.1, Option.toList_none, List.append_nil]

/-- **What a history leaves in the ledger**, from a directory without one on. -/
theorem filed_history {p : Events.Place} {d : Directory} (keep : Int) (start : Calendar.Reading)
    (steps : List Log.Step) (hnone : d.lookup name = none) :
    let log := steps.foldl Log.after (.openOn p d keep start)
    Filed (entriesOf steps) log.directory log.day? := by
  have hopen {d : Directory} {entries : List Entry} {noted? : Option String}
      (h : Filed entries d noted?) (p : Events.Place) (keep : Int) (now : Calendar.Reading) :
      Filed entries (Log.openOn p d keep now).directory (Log.openOn p d keep now).day? :=
    (h.frame (Directory.lookup_touch_of_ne (by decide) now)).forget
  induction steps using List.reverseRecOn with
  | nil =>
    have hempty : Filed [] d none :=
      ⟨fun _ => ⟨hnone, rfl⟩, fun _ _ h => absurd h.symm
        (List.append_ne_nil_of_right_ne_nil _ (List.cons_ne_nil _ _))⟩
    exact hopen hempty p keep start
  | append_singleton steps step ih =>
    obtain ⟨-, -, hroom⟩ := Log.settings_history p d keep start steps
    rw [List.foldl_concat, entriesOf_concat]
    cases step with
    | emit now r =>
      rw [Log.Step.entry?, ← hroom]
      exact ih.emit now r
    | reopen now =>
      rw [Log.Step.entry?, Option.toList_none, List.append_nil]
      exact hopen ih _ _ now

end Ledger

/-- A row is written behind the ledger as it is, or behind the header in a new one. -/
theorem Ledger.lookup_write {room : Nat} {keep : Int} {now : Calendar.Reading}
    {noted? : Option String} {d : Directory} {r : Record} {values : List Json}
    {cells : List String} (h : values? room now r = some values)
    (hcells : cells? room values = some cells) :
    ∃ before, (Ledger.write room keep now noted? d r).1.lookup name =
        some ⟨before ++ line cells, now⟩ ∧
      (before = line header ∨ (d.lookup name).map File.text = some before) := by
  rw [write_eq h, hcells, Option.elim_some, lookup_enter, lookup_turn]
  refine ⟨_, rfl, ?_⟩
  split
  · cases d.lookup name with
    | none => exact .inl rfl
    | some file => exact .inr rfl
  · exact .inl rfl

/-- **The ledger reads back.** Every event but a disconnection has a row unless what is known about
its peer is neither nothing nor a number of fields, or one of the values for the row cannot be
written; texts always can. The row is written behind the ledger as it is, or behind the header in a
new one, and a reader of sheets takes it for one row of the eleven cells that were put into it,
whatever characters these hold. After a history of events and of opening the log anew, from a
directory without a ledger on, the reader takes the ledger for the header and all rows since the day
last changed, in order. -/
theorem ledger_reads_back (log : Log) (now : Calendar.Reading) (r : Record) {p : Place}
    {d : Directory} (keep : Int) (start : Calendar.Reading) (steps : List Log.Step)
    (hnone : d.lookup Ledger.name = none) :
    let after := (steps.foldl Log.after (.openOn p d keep start)).directory
    let entries := entriesOf steps
    ((r.cells? log.room now).isSome = true ↔
      (now.instant.isDated = true ∧ r.kind ≠ .disconnect) ∧
        ((r.get "intel").isVoid = true ∨ ∃ fields, r.get "intel" = .object fields) ∧
        r.isShown log.room now = true) ∧
    ((∀ field ∈ r.fields, field.2.fits log.room = true) → r.isShown log.room now = true) ∧
    (∀ cells, r.cells? log.room now = some cells →
      cells.length = 11 ∧ Ledger.read? (Ledger.line cells) = some [cells] ∧
      ∃ before, (log.emit now r).directory.lookup Ledger.name =
          some ⟨before ++ Ledger.line cells, now⟩ ∧
        (before = Ledger.line Ledger.header ∨
          (log.directory.lookup Ledger.name).map File.text = some before)) ∧
    (after.lookup Ledger.name).map (fun file => Ledger.read? file.text) =
      entries.getLast?.map fun _ =>
        some (Ledger.header :: (Ledger.latest entries).filterMap Entry.cells?) := by
  intro after entries
  have hfiled := @Ledger.filed_history p d keep start steps hnone
  refine ⟨Record.isSome_cells?_iff, fun hvalues => Record.isShown_of_fits hvalues now,
    fun cells hcells => ?_, ?_⟩
  · have hlength := Record.length_of_cells? hcells
    have hne : cells ≠ [] := List.ne_nil_of_length_pos (by omega)
    have hread : Ledger.read? (Ledger.line cells) = some [cells] := by
      rw [← Ledger.sheet_singleton]
      exact Ledger.read?_sheet fun row hrow => by rwa [List.mem_singleton.mp hrow]
    refine ⟨hlength, hread, ?_⟩
    obtain ⟨⟨hdated, hkind⟩, values, hvalues, hwritten⟩ := Record.cells?_eq_some_iff.mp hcells
    obtain ⟨before, hlookup, hbefore⟩ := @Ledger.lookup_write log.room log.keep now log.day?
      (Journal.write log.room log.keep log.midnight now log.directory r).1 r values cells hvalues
      hwritten
    rw [Ledger.lookup_name_journal_write] at hbefore
    refine ⟨before, ?_, hbefore⟩
    rw [log.lookup_emit hdated (r.transcript?_ne (by decide)), log.record_of_ne now hkind, hlookup]
  · have hwide : ∀ row ∈ Ledger.header :: (Ledger.latest entries).filterMap Entry.cells?,
        row ≠ [] := by
      intro row hrow
      obtain rfl | hrow := List.mem_cons.mp hrow
      · nofun
      · obtain ⟨entry, hentry, hcells⟩ := List.mem_filterMap.mp hrow
        obtain ⟨step, -, hstep⟩ := List.mem_filterMap.mp
          ((List.rtakeWhile_suffix _ entries).subset hentry)
        cases step with
        | emit now r =>
          have hrow : r.cells? valueRoom now = some row :=
            Option.bind_eq_some_iff.mpr ⟨entry, hstep, hcells⟩
          exact List.ne_nil_of_length_pos (by rw [Record.length_of_cells? hrow]; omega)
        | reopen now => cases hstep
    obtain hnil | ⟨first, last, hlast⟩ := entries.eq_nil_or_concat'
    · rw [(hfiled.fresh hnil).1, hnil]
      rfl
    · obtain ⟨file, hfile, htext, -⟩ := hfiled.current first last hlast
      rw [hfile, Option.map_some, htext, Ledger.pageOf, Ledger.read?_sheet hwide, hlast,
        List.getLast?_concat]
      rfl

/-- A password that looks like the end of a cell and of a row, and a row of the next day after the
log was opened anew. -/
theorem ledger_reads_back_example :
    let now : Calendar.Reading := ⟨⟨1700000000000000⟩, 1700000000, 1700000000⟩
    let later : Calendar.Reading := ⟨⟨1700086400000000⟩, 1700086400, 1700086400⟩
    let r : Record := ⟨.authentication, [("password", .text "a\",\r\nb\x00")]⟩
    let cells := ["2023-11-14", "22:13:20", "-", "-", "authentication", "-", "a\",\r\nb\x00", "-",
      "-", "-", "password accepted"]
    let log := Log.openOn ⟨["logs"], fun _ => false⟩ [] 30 now
    ([] : Directory).lookup Ledger.name = none ∧ r.cells? log.room now = some cells ∧
      Ledger.read? (Ledger.line cells) = some [cells] ∧
      (((log.emit now r).emit now r).directory.lookup Ledger.name).map
          (fun file => Ledger.read? file.text) = some (some [Ledger.header, cells, cells]) ∧
      ((([.emit now r, .reopen later, .emit later r] : List Log.Step).foldl Log.after
          log).directory.lookup Ledger.name).map (fun file => Ledger.read? file.text) =
        some (some [Ledger.header, "2023-11-15" :: cells.tail]) := by
  intro now later r cells log
  have hcells : r.cells? log.room now = some cells := by decide +kernel
  obtain ⟨-, -, hrow, htwo⟩ :=
    @ledger_reads_back log now r log.place [] 30 now [.emit now r, .emit now r] rfl
  obtain ⟨-, -, -, hdays⟩ := @ledger_reads_back log now r log.place [] 30 now
    [.emit now r, .reopen later, .emit later r] rfl
  exact ⟨rfl, hcells, (hrow cells hcells).2.1, htwo.trans (by decide +kernel),
    hdays.trans (by decide +kernel)⟩

end Honeypot.Events
