import Honeypot.Proofs.FileSystem.OneTree
import Honeypot.Proofs.Session.Moves

/-!
# Where a session starts

A session starts in the home directory of its user, which is found in the tree of the device. It is
a directory unless the name of the user leads to one of the two files that every home directory
begins with: a place is taken for a home directory if it is in the tree at all.
-/

namespace Honeypot

/-! ## Names of users in paths -/

theorem flatMap_cons_eq {α : Type} (sep : α) {pieces : List (List α)} (h : pieces ≠ []) :
    pieces.flatMap (sep :: ·) = sep :: [sep].intercalate pieces := by
  induction pieces with
  | nil => exact absurd rfl h
  | cons piece pieces ih =>
    rw [List.flatMap_cons]
    cases pieces with
    | nil =>
      show sep :: (piece ++ []) = sep :: [sep].intercalate [piece]
      rw [List.append_nil, List.intercalate_singleton]
    | cons next pieces =>
      rw [ih (List.cons_ne_nil _ _), List.intercalate_cons_cons, List.append_assoc]
      rfl

/-- The path of the parts of a text is written as the text after a slash. -/
theorem Path.chars_fields (s : String) : Path.chars (Text.fields '/' s) = '/' :: s.toList := by
  have hne : s.toList.splitOn '/' ≠ [] := List.splitOn_ne_nil _ _
  unfold Path.chars Text.fields
  rw [List.flatMap_map]
  simp only [String.toList_ofList]
  rw [flatMap_cons_eq '/' hne, List.intercalate_splitOn]

namespace Layout

/-- The place that is looked up for the home directory of a user. -/
def placeOf (user : String) : Path := "home" :: Text.fields '/' user

theorem text_placeOf (user : String) : (placeOf user).text = "/home/" ++ user := by
  have hchars : (placeOf user).chars = '/' :: ("home".toList ++ '/' :: user.toList) := by
    show '/' :: ("home".toList ++ Path.chars (Text.fields '/' user)) = _
    rw [Path.chars_fields]
  refine String.toList_inj.mp ?_
  rw [Path.toList_text (p := placeOf user) (List.cons_ne_nil _ _), hchars, String.toList_append]
  rfl

theorem placeOf_injective : Function.Injective placeOf := fun a b h => by
  have htext := congrArg Path.text h
  rw [text_placeOf, text_placeOf] at htext
  exact (String.append_right_inj _).mp htext

/-- The names of users that lead to the files which a home directory begins with. -/
def startupFiles (p : Persona) : List String :=
  [p.homeUser ++ "/.bashrc", p.homeUser ++ "/.profile"]

/-- The only files below `/home` are those that a home directory begins with. -/
theorem entries_below_home : ∀ p ∈ Persona.catalogue, ∀ e ∈ entries p,
    e.path.head? = some "home" → e.content? ≠ none →
      ∃ user ∈ startupFiles p, e.path = placeOf user := by
  simp only [entries, userBinNames, userSbinNames, List.mem_append, mem_programs_sort]
  simp only [← List.mem_append]
  decide +kernel

/-- Those files are there, and nothing else takes their places. -/
theorem entries_startup : ∀ p ∈ Persona.catalogue, ∀ user ∈ startupFiles p,
    placeOf user ∉ holders p ∧ (∃ e ∈ homes p, e.path = placeOf user) ∧
      ∀ e ∈ entries p, e.path = placeOf user → e.content? ≠ none := by
  simp only [entries, userBinNames, userSbinNames, List.mem_append, mem_programs_sort]
  simp only [← List.mem_append]
  decide +kernel

theorem mem_entries_of_mem_homes {p : Persona} {e : Entry} (he : e ∈ homes p) : e ∈ entries p := by
  simp only [entries, List.mem_append]
  tauto

variable {p : Persona} (hp : p ∈ Persona.catalogue) {user : String}
include hp

theorem lookup_placeOf_startup (hfile : user ∈ startupFiles p) :
    ∃ node, (tree p).lookup (placeOf user) = some node ∧ node.isDirectory = false := by
  obtain ⟨hholders, ⟨e, he, hpath⟩, honly⟩ := entries_startup p hp user hfile
  obtain ⟨node, hnode⟩ :=
    Option.isSome_iff_exists.mp (isSome_lookup_tree (mem_entries_of_mem_homes he))
  rw [hpath] at hnode
  refine ⟨node, hnode, ?_⟩
  obtain ⟨other, hother, hplace, entries, rfl⟩ :=
    Tree.exists_entry_of_lookup (plantable_entries p hp) hholders hnode
  obtain ⟨content, hcontent⟩ := Option.ne_none_iff_exists'.mp (honly other hother hplace)
  unfold Node.isDirectory Tree.node
  rw [hcontent]

theorem isDirectory_placeOf (hfile : user ∉ startupFiles p) {node : Node}
    (hnode : (tree p).lookup (placeOf user) = some node) : node.isDirectory = true := by
  refine Tree.isDirectory_of_lookup (plantable_entries p hp) (fun e he hpath => ?_) hnode
  refine Classical.byContradiction fun hcontent => hfile ?_
  have hhome : e.path.head? = some "home" := by
    rw [hpath]
    rfl
  obtain ⟨other, hother, hplace⟩ := entries_below_home p hp e he hhome hcontent
  rwa [placeOf_injective (hpath.symm.trans hplace)]

theorem lookup_root : ∃ node, (tree p).lookup ["root"] = some node ∧ node.isDirectory = true := by
  have hentry : file (["root"] ++ [".bashrc"]) (.madeUp .shellStartup) 0o644 ∈ entries p := by
    refine mem_entries_of_mem_homes ?_
    unfold homes
    exact List.mem_cons_self
  have hfound := isSome_lookup_tree hentry
  obtain ⟨node, hnode, hdirectory, _⟩ := (shaped_tree hp).hangs _ _ hfound
  exact ⟨node, hnode, hdirectory⟩

omit hp in
/-- The home directory of a user is the place of that name if there is something. -/
theorem homeOf_eq (user : String) : homeOf p user =
    if user ≠ "root" ∧ ((tree p).lookup (placeOf user)).isSome = true then (placeOf user).text
    else "/root" := by
  have hany : ((tree p).any fun e => e.1 == placeOf user) =
      ((tree p).lookup (placeOf user)).isSome := by
    rw [Bool.eq_iff_iff, List.any_eq_true, List.lookup_isSome_iff]
    simp only [Bool.beq_comm]
  rw [text_placeOf, ← hany]
  unfold homeOf
  by_cases hroot : user = "root"
  · rw [if_pos hroot, if_neg fun h => h.1 hroot]
  · rw [if_neg hroot]
    simp only [ne_eq, hroot, not_false_eq_true, true_and]
    rfl

/-- **The home directory of any user** is found in the tree. It is a directory unless the name of
the user leads to a file that a home directory begins with. -/
theorem homeOf_spec (user : String) : ∃ q node, homeOf p user = q.text ∧
    (tree p).lookup q = some node ∧ (node.isDirectory = true ↔ user ∉ startupFiles p) := by
  rw [homeOf_eq]
  split
  · next h =>
    obtain ⟨node, hnode⟩ := Option.isSome_iff_exists.mp h.2
    refine ⟨placeOf user, node, rfl, hnode, fun hdirectory hfile => ?_, fun hfile => ?_⟩
    · obtain ⟨other, hother, hnot⟩ := lookup_placeOf_startup hp hfile
      cases hnode.symm.trans hother
      cases hdirectory.symm.trans hnot
    · exact isDirectory_placeOf hp hfile hnode
  · next h =>
    -- Both files are there, so that neither is passed over.
    have hfile : user ∉ startupFiles p := fun hfile => by
      have hname : ∀ p ∈ Persona.catalogue, "root" ∉ startupFiles p := by decide +kernel
      obtain ⟨node, hnode, _⟩ := lookup_placeOf_startup hp hfile
      exact h ⟨fun heq => hname p hp (heq ▸ hfile), Option.isSome_of_eq_some hnode⟩
    obtain ⟨node, hnode, hdirectory⟩ := lookup_root hp
    exact ⟨["root"], node, by decide +kernel, hnode, iff_of_true hdirectory hfile⟩

end Layout

/-! ## The start of a session -/

/-- The files of a user who logs in are those of a new view, and the shell is in the home
directory. -/
theorem Shell.cwd_homeFiles {p : Persona} (hp : p ∈ Persona.catalogue) (user : String) :
    ∃ node, (homeFiles p user).cwd.text = Layout.homeOf p user ∧
      (homeFiles p user).get (homeFiles p user).cwd.text = .ok node ∧
      (node.isDirectory = true ↔ user ∉ Layout.startupFiles p) := by
  obtain ⟨q, node, hhome, hnode, hdirectory⟩ := Layout.homeOf_spec hp user
  have hq := (Layout.shaped_tree hp).canonical q (Option.isSome_of_eq_some hnode)
  have hcwd : (homeFiles p user).cwd = q := by
    show Path.resolve "/" "/root" (if "".isEmpty then Layout.homeOf p user else "") = q
    rw [if_pos (by decide), hhome, Path.resolve_text hq]
  have hfresh : ∀ (tree : Tree) (home cwd : String),
      (FileSystem.fresh tree home cwd).lookup q = tree.lookup q := fun _ _ _ => rfl
  rw [hcwd]
  refine ⟨node, hhome.symm, FileSystem.get_eq_ok_iff.mpr ?_, hdirectory⟩
  rw [FileSystem.resolve_text hq]
  exact (hfresh _ _ _).trans hnode

namespace Scene

variable {τ : Type}

/-- The name under which a session starts. -/
def userOf (c : Scene τ) (user : String) : String :=
  firstName [user, c.session.user?.getD ""] c.session.device.defaultUser

theorem workspace_logIn {c : Scene τ} (h : c.session.closed = false) (user : String) :
    (c.logIn user).session.workspace? = some ⟨c.userOf user,
      Shell.homeFiles c.session.device (c.userOf user), .fresh, false⟩ := by
  unfold logIn
  rw [h]
  rfl

/-- **A session of a shipped device starts** in a place that is found, whatever its user calls
himself, and that place is a directory exactly if the name of the user does not lead to a file that
a home directory begins with. -/
theorem home_isDirectory_iff {p : Persona} (hp : p ∈ Persona.catalogue) :
    (∀ user, ∃ q node, Layout.homeOf p user = q.text ∧ (Layout.tree p).lookup q = some node ∧
      (node.isDirectory = true ↔ user ∉ Layout.startupFiles p)) ∧
    ∀ (c : Scene τ) (user : String), c.session.device = p → c.session.closed = false →
      ∃ w node, (c.logIn user).session.workspace? = some w ∧ w.user = c.userOf user ∧
        w.files.cwd.text = Layout.homeOf p w.user ∧
        w.files.get w.files.cwd.text = .ok node ∧
        (node.isDirectory = true ↔ w.user ∉ Layout.startupFiles p) := by
  refine ⟨fun user => Layout.homeOf_spec hp user, fun c user hdevice hopen => ?_⟩
  obtain ⟨node, hcwd, hnode, hdirectory⟩ := Shell.cwd_homeFiles hp (c.userOf user)
  refine ⟨_, node, workspace_logIn hopen user, rfl, ?_⟩
  rw [hdevice]
  exact ⟨hcwd, hnode, hdirectory⟩

/-- A guest of an unknown name starts in a directory. -/
theorem home_isDirectory_example :
    exampleArrival.session.device ∈ Persona.catalogue ∧
    exampleArrival.session.closed = false ∧
    ∃ w node, (exampleArrival.logIn "guest").session.workspace? = some w ∧ w.user = "guest" ∧
      w.files.get w.files.cwd.text = .ok node ∧ node.isDirectory = true := by
  have hdevice : exampleArrival.session.device ∈ Persona.catalogue := List.mem_cons_self
  obtain ⟨w, node, hw, huser, _, hnode, hdirectory⟩ :=
    (home_isDirectory_iff hdevice).2 exampleArrival "guest" rfl rfl
  have hname : exampleArrival.userOf "guest" = "guest" := by decide +kernel
  have hguest : "guest" ∉ Layout.startupFiles exampleArrival.session.device := by decide +kernel
  rw [hname] at huser
  rw [huser] at hdirectory
  exact ⟨hdevice, rfl, w, node, hw, huser, hnode, hdirectory.mpr hguest⟩

/-- Who logs in as `pi/.bashrc` starts in a file. -/
theorem home_of_startup_file :
    Layout.homeOf Persona.raspberryPi "pi/.bashrc" = "/home/pi/.bashrc" ∧
    ∃ w node, (exampleArrival.logIn "pi/.bashrc").session.workspace? = some w ∧
      w.files.cwd.text = "/home/pi/.bashrc" ∧
      w.files.get w.files.cwd.text = .ok node ∧ node.isDirectory = false := by
  have hp : Persona.raspberryPi ∈ Persona.catalogue := List.mem_cons_self
  have hfile : "pi/.bashrc" ∈ Layout.startupFiles Persona.raspberryPi := by decide +kernel
  have hhome : Layout.homeOf Persona.raspberryPi "pi/.bashrc" = "/home/pi/.bashrc" := by
    obtain ⟨node, hnode, _⟩ := Layout.lookup_placeOf_startup hp hfile
    rw [Layout.homeOf_eq, if_pos ⟨by decide, Option.isSome_of_eq_some hnode⟩, Layout.text_placeOf]
    decide +kernel
  have huser : exampleArrival.userOf "pi/.bashrc" = "pi/.bashrc" := by decide +kernel
  obtain ⟨node, hcwd, hnode, hdirectory⟩ := Shell.cwd_homeFiles hp "pi/.bashrc"
  have hworkspace := workspace_logIn (c := exampleArrival) rfl "pi/.bashrc"
  rw [huser] at hworkspace
  refine ⟨hhome, _, node, hworkspace, hcwd.trans hhome, hnode, ?_⟩
  rw [Bool.eq_false_iff]
  exact fun hyes => hdirectory.mp hyes hfile

end Scene
end Honeypot
