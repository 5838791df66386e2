import Mathlib.Data.List.Perm.Subperm
import Honeypot.Proofs.FileSystem.Storing
import Honeypot.Proofs.Resolution
import Honeypot.Proofs.Shell.Fetching
import Honeypot.Proofs.Shell.Programs

/-!
# Names for fetched files

A fetched file for which no name was given gets the name that its locator ends in, with a number
behind it if that name is taken. Different numbers make different places in the working directory,
and a view shows only so many places, so the search for a free name ends, and with the first one
that there is (`isFirstFree_unusedName`). A file is therefore only ever put where there is nothing
(`wget_saves_apart`).
-/

namespace Honeypot

/-! ## Vacant places -/

namespace FileSystem

theorem mem_places_of_lookup {fs : FileSystem} {p : Path} (h : (fs.lookup p).isSome = true) :
    p ∈ fs.overlay.map (·.1) ++ fs.tree.map (·.1) := by
  rw [List.mem_append, ← Assoc.isSome_lookup_iff, ← Assoc.isSome_lookup_iff]
  obtain ⟨node, hnode⟩ := Option.isSome_iff_exists.mp h
  obtain hover | ⟨-, -, htree⟩ := lookup_eq_some_iff.mp hnode
  · exact .inl (Option.isSome_of_eq_some hover)
  · exact .inr (Option.isSome_of_eq_some htree)

/-- Among more different places than a view has nodes, there is one where it shows nothing. -/
theorem exists_vacant (fs : FileSystem) {place : Nat → Path} (hplace : Function.Injective place) :
    ∃ k < fs.tree.length + fs.overlay.length + 1, fs.lookup (place k) = none := by
  by_contra hnone
  have hnodup : ((List.range (fs.tree.length + fs.overlay.length + 1)).map place).Nodup :=
    List.nodup_range.map hplace
  have hsub : (List.range (fs.tree.length + fs.overlay.length + 1)).map place ⊆
      fs.overlay.map (·.1) ++ fs.tree.map (·.1) := by
    intro p hp
    obtain ⟨k, hk, rfl⟩ := List.mem_map.mp hp
    refine mem_places_of_lookup (Option.isSome_iff_ne_none.mpr fun hvacant => hnone ?_)
    exact ⟨k, List.mem_range.mp hk, hvacant⟩
  have hlength := (List.subperm_of_subset hnodup hsub).length_le
  simp only [List.length_map, List.length_range, List.length_append] at hlength
  omega

end FileSystem

namespace Shell

/-! ## Numbered names -/

/-- A name by itself, and then with one number after the other behind it. -/
def numbered (name : String) : Nat → String
  | 0 => name
  | number + 1 => name ++ "." ++ Text.ofNat (number + 1)

section Names

variable {name : String}

theorem toList_numbered_succ (name : String) (number : Nat) :
    (numbered name (number + 1)).toList =
      name.toList ++ '.' :: Nat.toDigits 10 (number + 1) := by
  unfold numbered Text.ofNat Text.inBase
  rw [String.toList_append, String.toList_append, String.toList_ofList, List.append_assoc,
    String.toList_ofList]
  rfl

theorem numbered_succ_injective (name : String) :
    Function.Injective fun number => numbered name (number + 1) := by
  intro m n h
  have hlist := congrArg String.toList h
  dsimp only at hlist
  rw [toList_numbered_succ, toList_numbered_succ] at hlist
  have hdigits := (List.cons.inj (List.append_cancel_left hlist)).2
  simpa using congrArg (Nat.ofDigitChars 10 · 0) hdigits

theorem exists_digit_mem_numbered (name : String) (number : Nat) :
    ∃ c ∈ (numbered name (number + 1)).toList, c.isDigit = true := by
  obtain ⟨c, hc⟩ := List.exists_mem_of_ne_nil (Nat.toDigits 10 (number + 1)) Nat.toDigits_ne_nil
  refine ⟨c, ?_, Nat.isDigit_of_mem_toDigits (by decide) (by decide) hc⟩
  rw [toList_numbered_succ]
  exact List.mem_append_right _ (List.mem_cons_of_mem _ hc)

/-- A name with a number behind it stands for itself, even if the name alone does not. -/
theorem isName_numbered (hname : '/' ∉ name.toList) (number : Nat) :
    Path.IsName (numbered name (number + 1)) ∧ numbered name (number + 1) ≠ "~" := by
  obtain ⟨c, hc, hdigit⟩ := exists_digit_mem_numbered name number
  have hother {t : String} (ht : t.toList.any Char.isDigit = false) :
      numbered name (number + 1) ≠ t := by
    rintro rfl
    exact List.any_eq_false.mp ht c hc hdigit
  refine ⟨⟨hother (by decide), hother (by decide), hother (by decide), ?_⟩, hother (by decide)⟩
  rw [toList_numbered_succ, List.mem_append, List.mem_cons, not_or, not_or]
  exact ⟨hname, by decide, fun hslash =>
    absurd (Nat.isDigit_of_mem_toDigits (by decide) (by decide) hslash) (by decide)⟩

theorem resolve_numbered_injective (fs : FileSystem) (hname : '/' ∉ name.toList) :
    Function.Injective fun number => fs.resolve (numbered name (number + 1)) := by
  intro m n h
  have hplace (number : Nat) : fs.resolve (numbered name (number + 1)) =
      Path.walk Path.root fs.cwd.text.toList ++ [numbered name (number + 1)] :=
    have hstands := isName_numbered hname number
    Path.resolve_of_isName hstands.1 hstands.2 fs.cwd.text fs.home
  dsimp only at h
  rw [hplace, hplace] at h
  exact numbered_succ_injective name (List.singleton_inj.mp (List.append_cancel_left h))

/-! ## The search for a free name -/

variable {fs : FileSystem}

/-- Whether a text is the first one that is free of a name and the same name with numbers. -/
def IsFirstFree (fs : FileSystem) (name found : String) : Prop :=
  ∃ k, found = numbered name k ∧ fs.has found = false ∧
    ∀ l < k, fs.has (numbered name l) = true

/-- The search passes over numbers that are taken, and stops at one that is free or when it has
tried as many as it may. -/
theorem exists_freeName_eq (fs : FileSystem) (name : String) (tries number : Nat) :
    ∃ k, freeName fs name tries (number + 1) = numbered name (k + 1) ∧
      (∀ l, number ≤ l → l < k → fs.has (numbered name (l + 1)) = true) ∧
      (fs.has (numbered name (k + 1)) = false ∨ k = number + tries) := by
  induction tries generalizing number with
  | zero => exact ⟨number, rfl, fun l hle hlt => by omega, .inr rfl⟩
  | succ tries ih =>
    rw [freeName]
    cases hhas : fs.has (numbered name (number + 1)) with
    | false =>
      exact ⟨number, if_neg (Bool.eq_false_iff.mp hhas), fun l hle hlt => by omega, .inl hhas⟩
    | true =>
      obtain ⟨k, hfound, hbefore, hend⟩ := ih (number + 1)
      refine ⟨k, (if_pos hhas).trans hfound, fun l hle hlt => ?_, hend.imp_right (by omega)⟩
      obtain rfl | hlater := Nat.eq_or_lt_of_le hle
      · exact hhas
      · exact hbefore l hlater hlt

/-- **The search for a free name ends** with the first one that there is: it may try more numbers
than a view has nodes. -/
theorem isFirstFree_unusedName (fs : FileSystem) (hname : '/' ∉ name.toList) :
    IsFirstFree fs name (unusedName fs name) := by
  unfold unusedName
  split
  · next htaken =>
    obtain ⟨k, hfound, hbefore, hend⟩ :=
      exists_freeName_eq fs name (fs.tree.length + fs.overlay.length + 1) 0
    have hfree : fs.has (numbered name (k + 1)) = false := by
      refine hend.resolve_right fun hall => ?_
      obtain ⟨vacant, hlt, hnone⟩ := fs.exists_vacant (resolve_numbered_injective fs hname)
      have hhas := hbefore vacant (Nat.zero_le _) (by omega)
      exact absurd hnone (Option.isSome_iff_ne_none.mp hhas)
    rw [hfound]
    refine ⟨k + 1, rfl, hfree, fun l hl => ?_⟩
    cases l with
    | zero => exact htaken
    | succ l => exact hbefore l (Nat.zero_le _) (Nat.lt_of_succ_lt_succ hl)
  · next hfree => exact ⟨0, rfl, Bool.eq_false_iff.mpr hfree, fun l hl => nomatch hl⟩

theorem not_mem_fileName (u : Url) : '/' ∉ (u.fileName "index.html").toList := by
  unfold Url.fileName
  dsimp only
  split
  · decide
  · exact not_mem_afterLast '/' u.path

end Names

/-! ## Options -/

/-- Whether a word of `wget` names the file that is written. -/
def NamesOutput (token : String) : Prop :=
  isFlag token = true ∧ Text.startsWith token "--" = false ∧ Text.hasChar token 'O' = true ∨
    Text.startsWith token "--output-document=" = true

instance : DecidablePred NamesOutput := fun _ => inferInstanceAs (Decidable (_ ∨ _))

theorem cutFirst_of_not_mem {sep : Char} {cs : List Char} (h : sep ∉ cs) :
    Text.cutFirst sep cs = none := by
  induction cs with
  | nil => rfl
  | cons c cs ih =>
    obtain ⟨hc, hcs⟩ := List.ne_and_not_mem_of_not_mem_cons h
    rw [Text.cutFirst, if_neg hc.symm, ih hcs]
    rfl

theorem output?_readWgetOptions {tokens : List String} (h : ∀ token ∈ tokens, ¬NamesOutput token)
    (style : WgetStyle) : (readWgetOptions style tokens).output? = style.output? := by
  induction tokens generalizing style with
  | nil => rfl
  | cons token rest ih =>
    obtain ⟨htoken, hrest⟩ := List.forall_mem_cons.mp h
    obtain ⟨hletter, hlong⟩ := not_or.mp htoken
    rw [readWgetOptions]
    split
    · split
      · exact ih hrest _
      · exact ih hrest _
    · next hdouble =>
      split
      · next hflag =>
        have hnone : 'O' ∉ token.toList := fun hmem =>
          hletter ⟨hflag, Bool.eq_false_iff.mpr hdouble, List.contains_iff_mem.mpr hmem⟩
        dsimp only
        rw [cutFirst_of_not_mem hnone]
        exact ih hrest _
      · exact ih hrest _

/-! ## Saving -/

/-- The file that `wget` makes of a locator. -/
def fetched (c : Context) (p : Path) (size : Int) : Node :=
  FileSystem.fileNode p (payload size) 0o644 c.user c.now

/-- An account of the places at which files are saved for locators, one after the other: nothing is
there when a file is saved. -/
inductive Saves (c : Context) : FileSystem → List String → List Path → FileSystem → Prop where
  | finish {fs : FileSystem} {urls : List String} : Saves c fs urls [] fs
  | pass {fs fs' : FileSystem} {url : String} {urls : List String} {saved : List Path}
      (rest : Saves c fs urls saved fs') : Saves c fs (url :: urls) saved fs'
  | save {fs fs' : FileSystem} {url : String} {urls : List String} {saved : List Path} {u : Url}
      {p : Path} (size : Int) (cut : cutLocator url = .ok u)
      (named : p = fs.resolve (unusedName fs (u.fileName "index.html")))
      (vacant : fs.lookup p = none)
      (rest : Saves c (fs.store p (fetched c p size)) urls saved fs') :
      Saves c fs (url :: urls) (p :: saved) fs'

namespace Saves

variable {c : Context} {fs fs' : FileSystem} {urls : List String} {saved : List Path}

theorem kept (h : Saves c fs urls saved fs') : fs'.Extends fs := by
  induction h with
  | finish => exact .refl _
  | pass _ ih => exact ih
  | save size _ _ vacant _ ih => exact ih.trans (.store vacant _)

theorem vacant (h : Saves c fs urls saved fs') : ∀ p ∈ saved, fs.lookup p = none := by
  induction h with
  | finish => exact fun _ hp => nomatch hp
  | pass _ ih => exact ih
  | save size _ _ vacant _ ih =>
    refine List.forall_mem_cons.mpr ⟨vacant, fun q hq => ?_⟩
    by_contra hthere
    obtain ⟨node, hnode⟩ := Option.ne_none_iff_exists'.mp hthere
    cases (ih q hq).symm.trans (FileSystem.Extends.store vacant _ q node hnode)

theorem nodup (h : Saves c fs urls saved fs') : saved.Nodup := by
  induction h with
  | finish => exact List.nodup_nil
  | pass _ ih => exact ih
  | @save fs fs' url urls saved u p size cut named vacant rest ih =>
    refine List.nodup_cons.mpr ⟨fun hagain => ?_, ih⟩
    cases (rest.vacant p hagain).symm.trans (FileSystem.lookup_store_self fs p _)

end Saves

/-- What the view is after a locator was worked on: as it was, or with a file that was saved under
the first free name. -/
def SavesAtMost (c : Context) (url : String) (fs fs' : FileSystem) : Prop :=
  fs' = fs ∨ ∃ u size p, cutLocator url = .ok u ∧
    p = fs.resolve (unusedName fs (u.fileName "index.html")) ∧ fs' = fs.store p (fetched c p size)

theorem files_savePayload (c : Context) (name : String) (size : Int) (s : State) :
    ((savePayload c name size).run s).2.files =
      s.files.settled (s.files.write name (payload size) 0o644 c.user c.now) := by
  have hkeeps (failure : Option PathFault) :
      Keeps State.files (pure failure.isNone : Action Bool) := .pure _
  unfold savePayload
  rw [Keeps.view_bind hkeeps, Action.run_attempt]
  cases s.files.write name (payload size) 0o644 c.user c.now <;> rfl

/-- **A fetch** saves a file under the first free name or nothing at all, whatever it ends in. -/
theorem savesAtMost_wgetOne {style : WgetStyle} (hstyle : style.output? = none) (c : Context)
    (url : String) (s : State) :
    SavesAtMost c url s.files ((wgetOne c style url).run s).2.files := by
  have hchance {α : Type} (m : Draws α) : Keeps State.files (Action.chance m) :=
    Action.keeps_look (fun _ _ => rfl) _
  have hnothing : SavesAtMost c url s.files s.files := .inl rfl
  unfold wgetOne
  rw [hstyle, Option.filter_none]
  refine Keeps.bind_view (fun _ => rfl) rfl hnothing fun _ s₁ h₁ => ?_
  cases hcut : cutLocator url with
  | error e =>
    rw [run_bind_of_error (run_lift _ _), h₁]
    exact hnothing
  | ok u =>
    rw [run_bind_of_ok (run_lift _ _)]
    refine Keeps.bind_view (.lift _) h₁ hnothing fun place s₂ h₂ => ?_
    refine Keeps.bind_view (hchance _) h₂ hnothing fun address s₃ h₃ => ?_
    refine Keeps.bind_view (hchance _) h₃ hnothing fun size s₄ h₄ => ?_
    rw [run_bind_of_ok (Action.run_files s₄), h₄]
    refine Keeps.bind_view (.lift _) h₄ hnothing fun started s₅ h₅ => ?_
    dsimp only
    have hrest (name : String) (saved : Bool) : Keeps State.files (m := (
        if !saved then pure [name ++ ": No such file or directory"]
        else if style.quiet then pure []
        else Action.chance (transferLines started url place.1 address place.2 size name) :
        Action (List String))) :=
      .ite (.pure _) (.ite (.pure _) (hchance _))
    split
    · refine Keeps.bind_view (.pure _) h₅ hnothing fun saved s₆ h₆ => ?_
      rw [hrest, h₆]
      exact hnothing
    · rw [Keeps.view_bind (hrest _), files_savePayload, h₅]
      obtain hsame | hstored := s.files.settled_write _ (payload size) 0o644 c.user c.now
      · exact .inl hsame
      · exact .inr ⟨u, size, _, hcut, rfl, hstored⟩

/-- The account of a row is that of its first fetch and that of all others from there on. -/
theorem SavesAtMost.cons {c : Context} {fs fs₁ fs' : FileSystem} {url : String}
    {urls : List String} {saved : List Path} (hfirst : SavesAtMost c url fs fs₁)
    (hrest : Saves c fs₁ urls saved fs') : ∃ saved', Saves c fs (url :: urls) saved' fs' := by
  obtain rfl | ⟨u, size, p, hcut, hnamed, rfl⟩ := hfirst
  · exact ⟨saved, .pass hrest⟩
  · obtain ⟨-, -, hfree, -⟩ := isFirstFree_unusedName fs (not_mem_fileName u)
    have hvacant : fs.lookup p = none := by
      rw [hnamed]
      exact Option.isNone_iff_eq_none.mp (Option.isSome_eq_false_iff.mp hfree)
    exact ⟨p :: saved, .save size hcut hnamed hvacant hrest⟩

/-- **A row of fetches** saves files one after the other, up to the first fetch that fails. -/
theorem exists_saves_mapM {style : WgetStyle} (hstyle : style.output? = none) (c : Context)
    (urls : List String) (s : State) :
    ∃ saved, Saves c s.files urls saved ((urls.mapM (wgetOne c style)).run s).2.files := by
  induction urls generalizing s with
  | nil => exact ⟨[], .finish⟩
  | cons url urls ih =>
    have hfirst := savesAtMost_wgetOne hstyle c url s
    rcases hrun : (wgetOne c style url).run s with ⟨e | lines, s'⟩
    · rw [hrun] at hfirst
      rw [run_mapM_cons, hrun]
      exact hfirst.cons .finish
    · rw [hrun] at hfirst
      obtain ⟨saved, hsaved⟩ := ih s'
      rw [snd_run_mapM_of_ok hrun]
      exact hfirst.cons hsaved

/-- **Fetching overwrites nothing.** Where no word says how the fetched files are named, the search
for a free name ends for every locator, everything that was there is as it was, and files are saved
where there was nothing when they were saved, so no two of them at the same place. -/
theorem wget_saves_apart (c : Context) (inv : Invocation)
    (hnames : ∀ token ∈ inv.tokens, ¬NamesOutput token) (s : State) :
    (∀ url ∈ locators inv.tokens, ∀ u, cutLocator url = .ok u → ∀ fs,
      IsFirstFree fs (u.fileName "index.html") (unusedName fs (u.fileName "index.html"))) ∧
    ((wget c inv).run s).2.files.Extends s.files ∧
    ∃ saved, Saves c s.files (locators inv.tokens) saved ((wget c inv).run s).2.files ∧
      (∀ p ∈ saved, s.files.lookup p = none) ∧ saved.Nodup := by
  refine ⟨fun url _ u _ fs => isFirstFree_unusedName fs (not_mem_fileName u), ?_⟩
  have hstyle : (readWgetOptions ⟨false, none⟩ inv.tokens).output? = none :=
    output?_readWgetOptions hnames _
  have hsaves : ∃ saved, Saves c s.files (locators inv.tokens) saved
      ((wget c inv).run s).2.files := by
    unfold wget
    dsimp only
    split
    · exact ⟨[], .finish⟩
    · have hkeeps (lines : List (List String)) :
          Keeps State.files (pure (Text.block lines.flatten) : Action String) := .pure _
      rw [Keeps.view_bind hkeeps]
      exact exists_saves_mapM hstyle c _ s
  obtain ⟨saved, hsaved⟩ := hsaves
  exact ⟨hsaved.kept, saved, hsaved, hsaved.vacant, hsaved.nodup⟩

/-- Two locators that end in the same name. -/
theorem wget_saves_apart_example :
    (∀ token ∈ ["-q", "http://192.0.2.1/a/x", "http://192.0.2.1/b/x"], ¬NamesOutput token) ∧
    ∃ saved, Saves guest desk.files ["http://192.0.2.1/a/x", "http://192.0.2.1/b/x"] saved
      ((wget guest (.ofWords "wget" ["-q", "http://192.0.2.1/a/x", "http://192.0.2.1/b/x"])).run
        desk).2.files ∧ saved.Nodup := by
  have hnames : ∀ token ∈ ["-q", "http://192.0.2.1/a/x", "http://192.0.2.1/b/x"],
      ¬NamesOutput token := by decide
  obtain ⟨-, -, saved, hsaved, -, hnodup⟩ := wget_saves_apart guest
    (.ofWords "wget" ["-q", "http://192.0.2.1/a/x", "http://192.0.2.1/b/x"]) hnames desk
  exact ⟨hnames, saved, hsaved, hnodup⟩

end Shell
end Honeypot
