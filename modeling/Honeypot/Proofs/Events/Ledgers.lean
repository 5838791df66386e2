import Honeypot.Proofs.Events.Days

/-!
# The ledgers of a log

Over a whole history of events and of opening the log anew, the ledger holds the rows of the latest
day on which a row was written, and every ledger put aside those of its day (`ledgers_hold_days`).
Which days are kept is decided by sorting names, and the dates are in the order of the days. The
events must belong to sessions that are named like one file: the transcript of any other may lie
among the ledgers put aside, where it counts as one of them (`stray_transcript_removes_ledger`).
-/

namespace Honeypot.Events

theorem rtake_concat_rtake {α : Type} (xs : List α) (x : α) (n : Nat) :
    (xs.rtake n ++ [x]).rtake n = (xs ++ [x]).rtake n := by
  cases n with
  | zero => rw [List.rtake_zero, List.rtake_zero]
  | succ n =>
    simp only [List.rtake_eq_reverse_take_reverse, List.reverse_append, List.reverse_reverse,
      List.reverse_singleton, List.singleton_append, List.take_succ_cons, List.take_take,
      Nat.min_eq_left (Nat.le_succ n)]

namespace Ledger

/-! ## Ledgers put aside -/

section

variable {keep : Int} {late : List String} {rows : List Row} {d d' : Directory} {file : File}

/-- What is put aside are the ledgers of some days, each with the rows of its day. -/
structure Shelf (late : List String) (rows : List Row) (d : Directory) : Prop where
  distinct : d.Distinct
  text : ∀ day ∈ late, (d.lookup (backup day)).map File.text = some (page day rows)
  only : ∀ x, Text.startsWith x (name ++ ".") = true → d.has x = true →
    ∃ day ∈ late, x = backup day

theorem Shelf.has_iff (h : Shelf late rows d) {x : String}
    (hx : Text.startsWith x (name ++ ".") = true) :
    d.has x = true ↔ x ∈ late.map backup := by
  rw [List.mem_map]
  constructor
  · intro hhas
    obtain ⟨day, hday, rfl⟩ := h.only x hx hhas
    exact ⟨day, hday, rfl⟩
  · rintro ⟨day, hday, rfl⟩
    rw [Directory.has, ← Option.isSome_map (f := File.text), h.text day hday, Option.isSome_some]

theorem Shelf.frame (h : Shelf late rows d) (hdistinct : d'.Distinct)
    (hsame : ∀ x, Text.startsWith x (name ++ ".") = true → d'.lookup x = d.lookup x) :
    Shelf late rows d' where
  distinct := hdistinct
  text day hday := by
    rw [hsame _ (startsWith_backup day)]
    exact h.text day hday
  only x hx hhas := by
    rw [Directory.has, hsame x hx] at hhas
    exact h.only x hx hhas

theorem Shelf.concat {row : Row} (h : Shelf late rows d) (hrow : row.day ∉ late) :
    Shelf late (rows ++ [row]) d where
  distinct := h.distinct
  text day hday := by
    have hne : row.day ≠ day := by
      rintro rfl
      exact hrow hday
    rw [page_concat_other hne]
    exact h.text day hday
  only := h.only

theorem Shelf.rename {old : String} (h : Shelf late rows d) (hfile : d.lookup name = some file)
    (htext : file.text = page old rows) :
    Shelf (late ++ [old]) rows (d.rename name (backup old)) where
  distinct := h.distinct.rename _ _
  text day hday := by
    rw [Directory.lookup_rename hfile, if_neg (ne_name_of_startsWith (startsWith_backup day))]
    split
    · next heq => rw [backup_injective heq, Option.map_some, htext]
    · next hne =>
      refine h.text day ((List.mem_append.mp hday).resolve_right fun hold => hne ?_)
      rw [List.mem_singleton.mp hold]
  only x hx hhas := by
    rw [Directory.has, Directory.lookup_rename hfile, if_neg (ne_name_of_startsWith hx)] at hhas
    split at hhas
    · next heq => exact ⟨old, List.mem_append_right _ (List.mem_singleton_self _), heq⟩
    · obtain ⟨day, hday, hname⟩ := h.only x hx hhas
      exact ⟨day, List.mem_append_left _ hday, hname⟩

def asideNames (d : Directory) : List String :=
  d.topNames.filter fun file => Text.startsWith file (name ++ ".")

theorem Shelf.mem_asideNames_iff (h : Shelf late rows d)
    (hslash : ∀ day ∈ late, Text.hasChar (backup day) '/' = false) (x : String) :
    x ∈ asideNames d ↔ x ∈ late.map backup := by
  unfold asideNames
  rw [List.mem_filter, Directory.mem_topNames_iff]
  constructor
  · rintro ⟨⟨hhas, -⟩, hx⟩
    exact (h.has_iff hx).mp hhas
  · intro hx
    obtain ⟨day, hday, rfl⟩ := List.mem_map.mp hx
    exact ⟨⟨(h.has_iff (startsWith_backup day)).mpr hx, hslash day hday⟩, startsWith_backup day⟩

/-- If too many ledgers were put aside, those of the latest days are left. -/
theorem Shelf.trim (h : Shelf late rows d)
    (hslash : ∀ day ∈ late, Text.hasChar (backup day) '/' = false)
    (ordered : late.Pairwise fun a b => a.toList < b.toList) (hkeep : 0 ≤ keep) :
    Shelf (late.rtake keep.toNat) rows
      (d.removeAll (Directory.surplus keep (asideNames d))) := by
  have hleft : (late.map backup).rtake keep.toNat = (late.rtake keep.toNat).map backup := by
    rw [List.rtake, List.rtake, List.length_map, List.map_drop]
  have hsurplus (x : String) : x ∈ Directory.surplus keep (asideNames d) ↔
      x ∈ late.map backup ∧ x ∉ (late.rtake keep.toNat).map backup := by
    rw [← hleft]
    exact Directory.mem_surplus_iff hkeep (h.distinct.topNames.filter _)
      (List.pairwise_map.mpr (ordered.imp backup_lt_iff.mpr)) (h.mem_asideNames_iff hslash)
  refine ⟨h.distinct.removeAll _, fun day hday => ?_, fun x hx hhas => ?_⟩
  · rw [Directory.lookup_removeAll, if_neg fun hgone => ?_]
    · exact h.text day (List.mem_of_mem_drop hday)
    · exact ((hsurplus _).mp hgone).2 (List.mem_map_of_mem hday)
  · rw [Directory.has, Directory.lookup_removeAll] at hhas
    split at hhas
    · cases hhas
    · next hstays =>
      rw [hsurplus, not_and_not_right] at hstays
      obtain ⟨day, hday, rfl⟩ := List.mem_map.mp (hstays ((h.has_iff hx).mp hhas))
      exact ⟨day, hday, rfl⟩

end

/-! ## The whole history -/

section

variable {keep : Int} {rows : List Row} {d d' : Directory} {noted? : Option String} {room : Nat}

/-- What rows have left behind: the ledger has those of the latest day, and it was changed last on
that day; the ledgers of the days before are put aside, as many as are to be kept. -/
structure Kept (keep : Int) (rows : List Row) (d : Directory) (noted? : Option String) : Prop where
  fresh : rows = [] → d.lookup name = none ∧ noted? = none
  current : ∀ first last, rows = first ++ [last] → ∃ file, d.lookup name = some file ∧
    file.text = page last.day rows ∧ file.changed.moment.date = last.day ∧
    ∀ day, noted? = some day → day = last.day
  shelf : Shelf ((earlier rows).rtake keep.toNat) rows d

theorem Kept.frame (h : Kept keep rows d noted?) (hdistinct : d'.Distinct)
    (hsame : ∀ x, Text.startsWith x name = true → d'.lookup x = d.lookup x) :
    Kept keep rows d' noted? where
  fresh := by
    rw [hsame name (by decide)]
    exact h.fresh
  current := by
    rw [hsame name (by decide)]
    exact h.current
  shelf := h.shelf.frame hdistinct fun x hx => hsame x (startsWith_name_of_startsWith hx)

theorem Kept.forget (h : Kept keep rows d noted?) : Kept keep rows d none where
  fresh hrows := ⟨(h.fresh hrows).1, rfl⟩
  current first last hrows := by
    obtain ⟨file, hfile, htext, hchanged, -⟩ := h.current first last hrows
    exact ⟨file, hfile, htext, hchanged, nofun⟩
  shelf := h.shelf

/-! ## One row more -/

theorem turn_of_none (h : dayOf? noted? d = none) (day : String) :
    Ledger.turn keep day noted? d = d := by
  unfold Ledger.turn
  rw [h]

theorem turn_of_same {day : String} (h : dayOf? noted? d = some day) :
    Ledger.turn keep day noted? d = d := by
  unfold Ledger.turn
  rw [h]
  exact if_neg fun hturn => hturn.1 rfl

theorem turn_of_ne {old day : String} (h : dayOf? noted? d = some old) (hne : old ≠ day)
    (hhas : d.has name = true) :
    Ledger.turn keep day noted? d = (d.rename name (backup old)).removeAll
      (Directory.surplus keep (asideNames (d.rename name (backup old)))) := by
  unfold Ledger.turn
  rw [h]
  exact if_pos ⟨hne, hhas⟩

/-- The ledger is ready for a row: it has all earlier rows of the day, and those of the other days
are put aside. -/
structure Ready (keep : Int) (rows : List Row) (row : Row) (d : Directory) : Prop where
  text : ((d.lookup name).map File.text).getD (line header) = page row.day rows
  shelf : Shelf ((earlier (rows ++ [row])).rtake keep.toNat) (rows ++ [row]) d

theorem Kept.dayOf_eq {last : Row} (h : Kept keep (rows ++ [last]) d noted?) :
    dayOf? noted? d = some last.day := by
  obtain ⟨file, hfile, -, hchanged, hnoted⟩ := h.current rows last rfl
  unfold dayOf?
  rw [hfile]
  cases noted? with
  | none => exact congrArg some hchanged
  | some day => exact congrArg some (hnoted day rfl)

theorem Kept.ready_first (h : Kept keep [] d noted?) (row : Row) :
    Ready keep [] row (Ledger.turn keep row.day noted? d) := by
  obtain ⟨hfile, hnoted⟩ := h.fresh rfl
  rw [turn_of_none (by rw [dayOf?, hfile, hnoted]; rfl)]
  refine ⟨?_, h.shelf.concat fun hlate => List.not_mem_nil (List.mem_of_mem_drop hlate)⟩
  rw [hfile]
  exact (page_of_not_mem List.not_mem_nil).symm

theorem Kept.ready_same_day {last row : Row} (h : Kept keep (rows ++ [last]) d noted?)
    (hrows : Chronicle (rows ++ [last])) (hday : last.day = row.day)
    (hearlier : earlier (rows ++ [last] ++ [row]) = earlier (rows ++ [last])) :
    Ready keep (rows ++ [last]) row (Ledger.turn keep row.day noted? d) := by
  obtain ⟨file, hfile, htext, -⟩ := h.current rows last rfl
  rw [turn_of_same (hday ▸ h.dayOf_eq)]
  refine ⟨by rw [hfile, ← hday]; exact htext, ?_⟩
  rw [hearlier]
  exact h.shelf.concat fun hlate => hrows.not_mem_earlier (hday ▸ List.mem_of_mem_drop hlate)

theorem Kept.ready_new_day {last row : Row} (h : Kept keep (rows ++ [last]) d noted?)
    (hrows : Chronicle (rows ++ [last])) (hnew : row.day ∉ days (rows ++ [last]))
    (hearlier : earlier (rows ++ [last] ++ [row]) = days (rows ++ [last])) (hkeep : 0 ≤ keep) :
    Ready keep (rows ++ [last]) row (Ledger.turn keep row.day noted? d) := by
  obtain ⟨file, hfile, htext, -⟩ := h.current rows last rfl
  obtain ⟨hdays, hordered⟩ := hrows.days_eq
  set late := (earlier (rows ++ [last])).rtake keep.toNat with hlate
  -- the ledger of the last day joins the others before there can be too many of them
  have hrenamed : Shelf (late ++ [last.day]) (rows ++ [last])
      (d.rename name (backup last.day)) := h.shelf.rename hfile htext
  have hsub : (late ++ [last.day]).Sublist (days (rows ++ [last])) := by
    rw [hdays]
    exact (List.drop_sublist _ _).append_right _
  have htrimmed := hrenamed.trim (fun _ hday => hrows.hasChar_backup (hsub.subset hday))
    (hordered.sublist hsub) hkeep
  rw [hlate, rtake_concat_rtake, ← hdays] at htrimmed
  have hlast : last.day ∈ days (rows ++ [last]) :=
    hsub.subset (List.mem_append_right _ (List.mem_singleton_self _))
  have hne : last.day ≠ row.day := by
    intro heq
    rw [heq] at hlast
    exact hnew hlast
  rw [turn_of_ne h.dayOf_eq hne (by rw [Directory.has, hfile]; rfl)]
  constructor
  · rw [Directory.lookup_removeAll, Directory.lookup_rename hfile,
      if_neg (ne_name_of_startsWith (startsWith_backup last.day)).symm, if_pos rfl, ite_self,
      page_of_not_mem hnew]
    rfl
  · rw [hearlier]
    exact htrimmed.concat fun hrow => hnew (List.mem_of_mem_drop hrow)

theorem Kept.ready {row : Row} (h : Kept keep rows d noted?)
    (hrows : Chronicle (rows ++ [row])) (hkeep : 0 ≤ keep) :
    Ready keep rows row (Ledger.turn keep row.day noted? d) := by
  obtain rfl | ⟨first, last, rfl⟩ := rows.eq_nil_or_concat'
  · exact h.ready_first row
  · obtain ⟨hsame, hearlier⟩ | ⟨hnew, hearlier⟩ := hrows.day_cases
    · exact h.ready_same_day hrows.init hsame hearlier
    · exact h.ready_new_day hrows.init hnew hearlier hkeep

/-- The directory with a ledger, which is its header if it is a new one. -/
def opened (now : Calendar.Reading) (d : Directory) : Directory :=
  if d.has name then d else d.append now name (line header)

/-- The directory with one row more in the ledger, behind a header if the ledger is new. -/
def enter (now : Calendar.Reading) (row : String) (d : Directory) : Directory :=
  (opened now d).append now name row

theorem write_eq {now : Calendar.Reading} {r : Record} {values : List Json}
    (h : values? room now r = some values) :
    Ledger.write room keep now noted? d r =
      ((cells? room values).elim (opened now) (fun cells => enter now (line cells))
        (Ledger.turn keep now.moment.date noted? d), some now.moment.date) := by
  unfold Ledger.write
  rw [h]
  dsimp only
  cases cells? room values <;> rfl

/-- A row that can be written is written. -/
theorem write_of_isShown {now : Calendar.Reading} {r : Record} {values : List Json}
    (hshown : r.isShown room now = true) (h : Ledger.row? now r = some values) :
    Ledger.write room keep now noted? d r =
      (enter now (line (values.map cell)) (Ledger.turn keep now.moment.date noted? d),
        some now.moment.date) := by
  unfold Record.isShown at hshown
  rw [h, Option.all_some, Bool.and_eq_true] at hshown
  obtain ⟨hmethod, hvalues⟩ := hshown
  have hsome : values? room now r = some values := by
    rw [values?, if_neg, h]
    rintro ⟨hkind, hunfit⟩
    have hfits : r.method.fits room = true := by simpa [hkind] using hmethod
    rw [hfits] at hunfit
    cases hunfit
  rw [write_eq hsome, cells?, if_pos hvalues, Option.elim_some]

theorem lookup_opened_of_ne {x : String} (h : x ≠ name) (now : Calendar.Reading) :
    (opened now d).lookup x = d.lookup x := by
  unfold opened
  split
  · rfl
  · rw [Directory.lookup_append, if_neg h]

theorem lookup_opened (now : Calendar.Reading) :
    (opened now d).lookup name = some ((d.lookup name).getD ⟨line header, now⟩) := by
  unfold opened Directory.has
  cases hfile : d.lookup name with
  | none =>
    rw [Option.isSome_none, if_neg Bool.false_ne_true, Directory.lookup_append, if_pos rfl, hfile,
      Option.map_none, Option.getD_none, String.empty_append, Option.getD_none]
  | some file => rw [Option.isSome_some, if_pos rfl, hfile, Option.getD_some]

theorem lookup_enter_of_ne {x : String} (h : x ≠ name) (now : Calendar.Reading) (row : String) :
    (enter now row d).lookup x = d.lookup x := by
  unfold enter
  rw [Directory.lookup_append, if_neg h, lookup_opened_of_ne h]

theorem lookup_enter (now : Calendar.Reading) (row : String) :
    (enter now row d).lookup name =
      some ⟨((d.lookup name).map File.text).getD (line header) ++ row, now⟩ := by
  unfold enter
  rw [Directory.lookup_append, if_pos rfl, lookup_opened]
  cases d.lookup name <;> rfl

theorem distinct_enter (h : d.Distinct) (now : Calendar.Reading) (row : String) :
    (enter now row d).Distinct := by
  unfold enter opened
  split
  · exact h.append _ _ _
  · exact (h.append _ _ _).append _ _ _

/-- **The ledger leaves all files alone that are not named after it.** -/
theorem lookup_write_of_not_startsWith {x : String} (hx : Text.startsWith x name = false)
    (room : Nat) (keep : Int) (now : Calendar.Reading) (noted? : Option String) (d : Directory)
    (r : Record) : (Ledger.write room keep now noted? d r).1.lookup x = d.lookup x := by
  have hne : x ≠ name := by
    rintro rfl
    exact absurd hx (by decide)
  have hlonger {y : String} (hy : Text.startsWith y (name ++ ".") = true) : x ≠ y := by
    rintro rfl
    rw [startsWith_name_of_startsWith hy] at hx
    cases hx
  have hturn : (Ledger.turn keep now.moment.date noted? d).lookup x = d.lookup x := by
    unfold Ledger.turn
    split
    · rfl
    · split
      · dsimp only
        rw [Directory.lookup_removeAll, if_neg, Directory.lookup_rename_of_ne hne]
        · exact hlonger (startsWith_backup _)
        · exact fun hmem => hlonger
            (List.mem_filter.mp (Directory.mem_of_mem_surplus hmem)).2 rfl
      · rfl
  cases hvalues : values? room now r with
  | none =>
    unfold Ledger.write
    rw [hvalues]
  | some values =>
    rw [write_eq hvalues]
    cases cells? room values with
    | none => exact (lookup_opened_of_ne hne now).trans hturn
    | some cells => exact (lookup_enter_of_ne hne now _).trans hturn

theorem Ready.kept {row : Row} {now : Calendar.Reading} (h : Ready keep rows row d)
    (hday : now.moment.date = row.day) :
    Kept keep (rows ++ [row]) (enter now row.line d) (some row.day) := by
  refine ⟨fun hnil => ?_, fun first last hrows => ?_,
    h.shelf.frame (distinct_enter h.shelf.distinct _ _) fun x hx =>
      lookup_enter_of_ne (ne_name_of_startsWith hx) _ _⟩
  · exact absurd hnil (List.append_ne_nil_of_right_ne_nil _ (List.cons_ne_nil _ _))
  · have hlast : row = last := (List.cons.inj (List.append_inj' hrows rfl).2).1
    refine ⟨_, lookup_enter _ _, ?_, hlast ▸ hday, fun day heq => ?_⟩
    · rw [h.text, ← hlast]
      exact (page_concat_same rows row).symm
    · rw [← hlast]
      exact (Option.some.inj heq).symm

theorem Kept.write (h : Kept keep rows d noted?) {now : Calendar.Reading} {r : Record}
    (hdated : now.instant.isDated = true) (hkind : r.kind ≠ .disconnect)
    (hshown : r.isShown room now = true) (hrows : Chronicle (rows ++ (r.row? now).toList))
    (hkeep : 0 ≤ keep) :
    Kept keep (rows ++ (r.row? now).toList) (Ledger.write room keep now noted? d r).1
      (Ledger.write room keep now noted? d r).2 := by
  unfold Record.row? at hrows ⊢
  rw [if_pos ⟨hdated, hkind⟩] at hrows ⊢
  cases hrow : Ledger.row? now r with
  | none =>
    have hnone : values? room now r = none := by rw [values?, hrow, ite_self]
    unfold Ledger.write
    rwa [hnone, Option.map_none, Option.toList_none, List.append_nil]
  | some values =>
    rw [hrow] at hrows
    rw [write_of_isShown hshown hrow]
    exact (h.ready hrows hkeep).kept rfl

theorem Kept.record {log : Log} (h : Kept log.keep rows log.directory log.day?)
    {now : Calendar.Reading} {r : Record} (hdated : now.instant.isDated = true)
    (hshown : r.isShown log.room now = true) (hrows : Chronicle (rows ++ (r.row? now).toList))
    (hkeep : 0 ≤ log.keep) :
    Kept log.keep (rows ++ (r.row? now).toList) (log.record now r).1 (log.record now r).2 := by
  have hjournal : Kept log.keep rows
      (Journal.write log.room log.keep log.midnight now log.directory r).1 log.day? :=
    h.frame (distinct_journal_write h.shelf.distinct _ _ _ _ _) fun x hx =>
      lookup_journal_write (not_journal_of_startsWith hx) _ _ _ _ _ _
  by_cases hkind : r.kind = .disconnect
  · unfold Log.record Record.row?
    rwa [if_pos hkind, if_neg fun hboth => hboth.2 hkind, Option.toList_none, List.append_nil]
  · rw [log.record_of_ne now hkind]
    exact hjournal.write hdated hkind hshown hrows hkeep

/-- **What an event leaves behind** is its row, if it has one. -/
theorem Kept.emit {log : Log} (h : Kept log.keep rows log.directory log.day?)
    {now : Calendar.Reading} {r : Record} (hname : r.isNamed = true)
    (hshown : r.isShown log.room now = true) (hrows : Chronicle (rows ++ (r.row? now).toList))
    (hkeep : 0 ≤ log.keep) :
    Kept log.keep (rows ++ (r.row? now).toList) (log.emit now r).directory
      (log.emit now r).day? := by
  by_cases hdated : now.instant.isDated = true
  · have hrecord := h.record hdated hshown hrows hkeep
    rw [(log.emit_of_isDated r hdated).2]
    refine hrecord.frame ?_ fun x hx =>
      log.lookup_emit hdated (r.transcript?_ne_of_isNamed hname log.place hx)
    rw [(log.emit_of_isDated r hdated).1]
    obtain heq | ⟨file, text, -, heq⟩ :=
      transcript_write_cases log.place log.room now log.begun (log.record now r).1 r
    · rw [heq]
      exact hrecord.shelf.distinct
    · rw [heq]
      exact hrecord.shelf.distinct.append _ _ _
  · unfold Log.emit Record.row?
    rwa [if_neg hdated, if_neg fun hboth => hdated hboth.1, Option.toList_none, List.append_nil]

theorem Kept.openOn (h : Kept keep rows d noted?) (p : Place) (now : Calendar.Reading) :
    Kept keep rows (Log.openOn p d keep now).directory (Log.openOn p d keep now).day? := by
  refine Kept.forget (h.frame (h.shelf.distinct.touch _ _) fun x hx => ?_)
  refine Directory.lookup_touch_of_ne ?_ now
  rintro rfl
  exact absurd hx (by decide)

theorem Kept.step {log : Log} (h : Kept log.keep rows log.directory log.day?)
    (hroom : log.room = valueRoom) {step : Log.Step} (hname : step.isNamed = true)
    (hshown : step.isShown = true) (hrows : Chronicle (rows ++ step.row?.toList))
    (hkeep : 0 ≤ log.keep) :
    Kept log.keep (rows ++ step.row?.toList) (log.after step).directory
      (log.after step).day? := by
  cases step with
  | emit now r => exact h.emit hname (hroom.symm ▸ hshown) hrows hkeep
  | reopen now =>
    rw [Log.Step.row?, Option.toList_none, List.append_nil]
    exact h.openOn log.place now

end

end Ledger

/-! ## Histories -/

/-- **What a history leaves behind**, from a directory without ledgers on. -/
theorem kept_history {p : Place} {d : Directory} {keep : Int} {steps : List Log.Step}
    (start : Calendar.Reading) (hdistinct : d.Distinct)
    (hnone : ∀ x, Text.startsWith x Ledger.name = true → d.lookup x = none) (hkeep : 0 ≤ keep)
    (hnames : ∀ s ∈ steps, s.isNamed = true) (hshown : ∀ s ∈ steps, s.isShown = true)
    (hrows : Ledger.Chronicle (rowsOf steps)) :
    let log := steps.foldl Log.after (.openOn p d keep start)
    Ledger.Kept keep (rowsOf steps) log.directory log.day? := by
  induction steps using List.reverseRecOn with
  | nil =>
    have hempty : Ledger.Kept keep [] d none := by
      refine ⟨fun _ => ⟨hnone _ (by decide), rfl⟩, fun _ _ h => ?_, hdistinct, ?_, ?_⟩
      · exact absurd h.symm (List.append_ne_nil_of_right_ne_nil _ (List.cons_ne_nil _ _))
      · exact fun day hday => absurd (List.mem_of_mem_drop hday) List.not_mem_nil
      · intro x hx hhas
        rw [Directory.has, hnone x (Ledger.startsWith_name_of_startsWith hx)] at hhas
        cases hhas
    exact hempty.openOn p start
  | append_singleton steps step ih =>
    rw [rowsOf_concat] at hrows
    obtain ⟨hnames, hname⟩ := List.forall_mem_append.mp hnames
    obtain ⟨hshown, hone⟩ := List.forall_mem_append.mp hshown
    have hkept := ih hnames hshown hrows.init
    obtain ⟨-, hsame, hroom⟩ := Log.settings_history p d keep start steps
    rw [List.foldl_concat, rowsOf_concat]
    generalize steps.foldl Log.after (.openOn p d keep start) = log at hsame hroom hkept ⊢
    subst hsame
    exact hkept.step hroom (hname step (List.mem_singleton_self _))
      (hone step (List.mem_singleton_self _)) hrows hkeep

/-- **The ledgers hold the rows of their days**, over every history in which time goes on, of events
whose rows can be written and of sessions that are named like one file. The ledger has the rows of
the latest day, and what was put aside are the ledgers of the days before, as many as are to be
kept, each with the rows of its day. -/
theorem ledgers_hold_days {p : Place} {d : Directory} {keep : Int} {steps : List Log.Step}
    (start : Calendar.Reading) (hdistinct : d.Distinct)
    (hnone : ∀ x, Text.startsWith x Ledger.name = true → d.lookup x = none) (hkeep : 0 ≤ keep)
    (hforward : steps.Pairwise fun s t => s.now.instant.micros ≤ t.now.instant.micros)
    (hyears : ∀ s ∈ steps, s.now.instant.HasFourDigits)
    (hnames : ∀ s ∈ steps, s.isNamed = true) (hshown : ∀ s ∈ steps, s.isShown = true) :
    let after := (steps.foldl Log.after (.openOn p d keep start)).directory
    let rows := rowsOf steps
    let late := (Ledger.earlier rows).rtake keep.toNat
    (after.lookup Ledger.name).map File.text =
        rows.getLast?.map (fun last => Ledger.page last.day rows) ∧
      (∀ day ∈ late,
        (after.lookup (Ledger.backup day)).map File.text = some (Ledger.page day rows)) ∧
      ∀ x, Text.startsWith x (Ledger.name ++ ".") = true →
        (after.has x = true ↔ x ∈ late.map Ledger.backup) := by
  intro after rows late
  have hrows : Ledger.Chronicle rows := chronicle_rowsOf hforward hyears
  have hkept :=
    @kept_history p d keep steps start hdistinct hnone hkeep hnames hshown hrows
  refine ⟨?_, hkept.shelf.text, fun x hx => hkept.shelf.has_iff hx⟩
  obtain hnil | ⟨first, last, hlast⟩ := rows.eq_nil_or_concat'
  · rw [(hkept.fresh hnil).1, hnil]
    rfl
  · obtain ⟨file, hfile, htext, -⟩ := hkept.current first last hlast
    rw [hfile, hlast, List.getLast?_concat, ← hlast]
    exact congrArg some htext

/-- Two connections a day apart, the second of them to a log that was opened anew. -/
theorem ledgers_hold_days_example :
    let now : Calendar.Reading := ⟨⟨1700000000000000⟩, 1700000000, 1700000000⟩
    let later : Calendar.Reading := ⟨⟨1700086400000000⟩, 1700086400, 1700086400⟩
    let steps : List Log.Step := [.emit now ⟨.connection, [("session_id", .text "s1")]⟩,
      .reopen later, .emit later ⟨.connection, [("session_id", .text "s2")]⟩]
    Ledger.earlier (rowsOf steps) = ["2023-11-14"] ∧
      (steps.foldl Log.after (.openOn ⟨["logs"], fun _ => false⟩ [] 1 now)).directory.has
        "credentials.csv.2023-11-14" = true := by
  intro now later steps
  have hearlier : Ledger.earlier (rowsOf steps) = ["2023-11-14"] := by decide +kernel
  refine ⟨hearlier, ?_⟩
  obtain ⟨-, -, hall⟩ := @ledgers_hold_days ⟨["logs"], fun _ => false⟩ [] 1 steps now
    List.nodup_nil (fun _ _ => rfl) (by decide) (by decide)
    (by simp only [steps, Calendar.Instant.HasFourDigits]; decide +kernel) (by decide +kernel)
    (by decide +kernel)
  exact (hall _ (by decide +kernel)).mpr (by rw [hearlier]; decide +kernel)

/-- If one ledger is to be kept and a transcript lies among those put aside, the transcript is kept
when the next ledger is put aside. -/
theorem has_emit_of_stray {log : Log} {now : Calendar.Reading} {r : Record} {values : List Json}
    {journal : Directory} {old x : String} (hdated : now.instant.isDated = true)
    (hkind : r.kind ≠ .disconnect) (hsilent : r.transcript? log.place = none)
    (hshown : r.isShown log.room now = true) (hrow : Ledger.row? now r = some values)
    (hkeep : log.keep = 1)
    (hjournal : (Journal.write log.room 1 log.midnight now log.directory r).1 = journal)
    (hold : Ledger.dayOf? log.day? journal = some old) (hne : old ≠ now.moment.date)
    (hhas : journal.has Ledger.name = true)
    (hnames : Ledger.asideNames (journal.rename Ledger.name (Ledger.backup old)) =
      [x, Ledger.backup old])
    (hlt : (Ledger.backup old).toList < x.toList) :
    (log.emit now r).directory.has (Ledger.backup old) = false := by
  have hmem : Ledger.backup old ∈ Directory.surplus 1 [x, Ledger.backup old] := by
    rw [Directory.surplus, Text.sort_eq_of_perm (.swap _ _ []) (List.pairwise_pair.mpr hlt)]
    exact List.mem_cons_self ..
  rw [(log.emit_of_isDated r hdated).1, transcript_write_of_none hsilent,
    log.record_of_ne now hkind, hkeep, hjournal, Ledger.write_of_isShown hshown hrow,
    Directory.has,
    Ledger.lookup_enter_of_ne (Ledger.ne_name_of_startsWith (Ledger.startsWith_backup old)),
    Ledger.turn_of_ne hold hne hhas, Directory.lookup_removeAll, hnames, if_pos hmem,
    Option.isSome_none]

/-- A session can be named so that its transcript lies among the ledgers that were put aside, where
it counts as one of them: the ledger of the only earlier day is removed. -/
theorem stray_transcript_removes_ledger :
    let now : Calendar.Reading := ⟨⟨1700000000000000⟩, 1700000000, 1700000000⟩
    let later : Calendar.Reading := ⟨⟨1700086400000000⟩, 1700086400, 1700086400⟩
    let steps : List Log.Step :=
      [.emit now ⟨.connection, [("session_id", .text "../credentials.csv")]⟩,
        .emit later ⟨.connection, []⟩]
    Ledger.earlier (rowsOf steps) = ["2023-11-14"] ∧
      (steps.foldl Log.after (.openOn ⟨["logs"], fun _ => false⟩ [] 1 now)).directory.has
        "credentials.csv.2023-11-14" = false := by
  intro now later steps
  refine ⟨by decide +kernel, ?_⟩
  have hlast : steps.foldl Log.after (.openOn ⟨["logs"], fun _ => false⟩ [] 1 now) =
      ((Log.openOn ⟨["logs"], fun _ => false⟩ [] 1 now).emit now
        ⟨.connection, [("session_id", .text "../credentials.csv")]⟩).emit later
        ⟨.connection, []⟩ := rfl
  have hname : "credentials.csv.2023-11-14" = Ledger.backup "2023-11-14" := by decide
  rw [hlast, hname]
  exact has_emit_of_stray (by decide) (by decide) rfl (by decide +kernel) rfl rfl rfl
    (by decide +kernel) (by decide +kernel) (by decide +kernel)
    (by decide +kernel : _ = ["credentials.csv.log", Ledger.backup "2023-11-14"])
    (by decide +kernel)

end Honeypot.Events
