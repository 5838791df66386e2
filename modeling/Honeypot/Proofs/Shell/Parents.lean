import Honeypot.Proofs.FileSystem.Walks
import Honeypot.Proofs.FileSystem.Ways
import Honeypot.Proofs.Shell.Entering
import Honeypot.Proofs.Shell.Programs

/-!
# Directories with their parents

`mkdir` with parents makes what is missing on the way to a place. It passes over whatever is there
without asking what it is, so that it may print nothing although the place is a file
(`mkdir_parents_iff`). What it leaves alone in any case is everything that was there, and once it
has printed nothing it has nothing more to do.
-/

namespace Honeypot.Shell

open FileSystem (newDirectory)

variable {c : Context} {s : State} {p : Path} {name : String}

/-! ## Places after one another -/

theorem wayTo_append (p : Path) (name : String) :
    wayTo (p ++ [name]) = wayTo p ++ [Path.text (p ++ [name])] := by
  unfold wayTo
  rw [List.length_append, List.length_singleton, List.range_succ, List.map_append]
  congr 1
  · refine List.map_congr_left fun n hn => ?_
    rw [List.take_append_of_le_length (List.mem_range.mp hn)]
  · rw [List.map_singleton, List.take_of_length_le (by rw [List.length_append]; rfl)]

/-- What is missing behind some places is made if nothing kept these from being made. -/
theorem run_makeMissing_append (front back : List String) (s : State) :
    (makeMissing c (front ++ back)).run s =
      match (makeMissing c front).run s with
      | (.ok none, s') => (makeMissing c back).run s'
      | (.ok (some cause), s') => (.ok (some cause), s')
      | (.error e, s') => (.error e, s') := by
  induction front generalizing s with
  | nil => rfl
  | cons path front ih =>
    rw [List.cons_append, makeMissing, makeMissing, run_bind_of_ok (Action.run_files s),
      run_bind_of_ok (Action.run_files s)]
    split
    · exact ih s
    · rw [run_bind, run_bind]
      rcases (Action.attempt fun fs => fs.makeDirectory path c.user c.now).run s with
        ⟨e | (_ | cause), s'⟩
      · rfl
      · exact ih s'
      · rfl

/-- One place is made if nothing is there, and if it can be. -/
theorem run_makeMissing_single (hp : p.IsCanonical) (s : State) :
    (makeMissing c [p.text]).run s =
      if (s.files.lookup p).isSome then (.ok none, s)
      else
        match s.files.makeDirectory p.text c.user c.now with
        | .ok files => (.ok none, { s with files })
        | .error e => (.ok (some e.cause), s) := by
  rw [makeMissing, run_bind_of_ok (Action.run_files s), FileSystem.has_text hp]
  split
  · rfl
  · rw [run_bind, Action.run_attempt]
    cases s.files.makeDirectory p.text c.user c.now <;> rfl

/-! ## The way to a place -/

/-- **One step on the way** paves it up to the next place, unless something else than a directory
keeps that from being made. -/
theorem exists_run_makeMissing_next {fs : FileSystem}
    (h : FileSystem.Paved c.user c.now fs p s.files) (hp : (p ++ [name]).IsCanonical) :
    ∃ cause? files,
      (makeMissing c [Path.text (p ++ [name])]).run s = (.ok cause?, { s with files }) ∧
      files.Extends fs ∧
      (cause? = none ↔ (fs.standing (p ++ [name]) = none →
        ∀ dir, fs.standing p = some dir → dir.isDirectory = true)) ∧
      (cause? = none → FileSystem.Paved c.user c.now fs (p ++ [name]) files) := by
  have hplace : s.files.resolve (Path.text (p ++ [name])) = p ++ [name] :=
    FileSystem.resolve_text hp
  rw [run_makeMissing_single hp, h.lookup_next]
  cases hstands : fs.standing (p ++ [name]) with
  | some node =>
    exact ⟨none, s.files, rfl, h.all, iff_of_true rfl nofun, fun _ => h.across hstands⟩
  | none =>
    by_cases hroom : s.files.HasRoom (p ++ [name])
    · have hvacant := (h.lookup_next name).trans hstands
      have hmake := FileSystem.makeDirectory_of_hasRoom (hplace.symm ▸ hroom)
        (hplace.symm ▸ hvacant) c.user c.now
      have hnext := h.make hp hstands hroom
      rw [hmake, hplace]
      exact ⟨none, _, rfl, hnext.all, iff_of_true rfl fun _ => (h.hasRoom_next_iff name).mp hroom,
        fun _ => hnext⟩
    · obtain ⟨e, hfails⟩ := FileSystem.makeDirectory_of_not_hasRoom
        (hplace.symm ▸ hroom) c.user c.now
      rw [hfails]
      exact ⟨some e.cause, s.files, rfl, h.all,
        iff_of_false nofun fun hdir => hroom ((h.hasRoom_next_iff name).mpr (hdir rfl)), nofun⟩

/-- **The way to a place is paved** up to the first place that something else than a directory keeps
from being made. -/
theorem exists_run_makeMissing_wayTo (hk : s.files.Kept) (hroot : s.files.HasRoot)
    (hp : p.IsCanonical) : ∃ cause? files,
      (makeMissing c (wayTo p)).run s = (.ok cause?, { s with files }) ∧
      files.Extends s.files ∧ (cause? = none ↔ s.files.HasWay p) ∧
      (cause? = none → FileSystem.Paved c.user c.now s.files p files) := by
  induction p using List.reverseRecOn with
  | nil =>
    exact ⟨none, s.files, rfl, .refl _, iff_of_true rfl (FileSystem.hasWay_root _),
      fun _ => .root hk hroot⟩
  | append_singleton p name ih =>
    obtain ⟨cause?, files, hrun, hall, hiff, hpaved⟩ := ih (Path.isCanonical_append.mp hp).1
    rw [wayTo_append, run_makeMissing_append, hrun, FileSystem.hasWay_append]
    cases cause? with
    | some cause =>
      have hnoWay : ¬s.files.HasWay p := fun hway => nomatch hiff.mpr hway
      exact ⟨some cause, files, rfl, hall, iff_of_false nofun fun h => hnoWay h.1, nofun⟩
    | none =>
      obtain ⟨cause?, files', hnext, hall', hiff', hpaved'⟩ :=
        exists_run_makeMissing_next (s := { s with files }) (hpaved rfl) hp
      exact ⟨cause?, files', hnext, hall',
        hiff'.trans (and_iff_right (hiff.mp rfl)).symm, hpaved'⟩

theorem run_makeMissing_of_has {paths : List String} (h : ∀ path ∈ paths, s.files.has path = true) :
    (makeMissing c paths).run s = (.ok none, s) := by
  induction paths with
  | nil => rfl
  | cons path rest ih =>
    obtain ⟨hpath, hrest⟩ := List.forall_mem_cons.mp h
    rw [makeMissing, run_bind_of_ok (Action.run_files s), if_pos hpath]
    exact ih hrest

theorem run_makeMissing_wayTo_of_found (hp : p.IsCanonical)
    (h : ∀ q, q <+: p → (s.files.lookup q).isSome = true) :
    (makeMissing c (wayTo p)).run s = (.ok none, s) := by
  refine run_makeMissing_of_has fun path hpath => ?_
  obtain ⟨n, -, rfl⟩ := List.mem_map.mp hpath
  have hpre := List.take_prefix (n + 1) p
  rw [FileSystem.has_text fun part hpart => hp part (hpre.subset hpart)]
  exact h _ hpre

/-! ## The command -/

/-- A target is complained about exactly if something on the way to it could not be made. -/
theorem run_mkdirTarget_parents {target : String} {s' : State} {cause? : Option PathFault}
    (h : (makeMissing c (wayTo (s.files.resolve target))).run s = (.ok cause?, s')) :
    ∃ lines, (mkdirTarget c true target).run s = (.ok lines, s') ∧
      (lines = [] ↔ cause? = none) := by
  unfold mkdirTarget
  rw [if_pos rfl, run_bind_of_ok (Action.run_files s), run_bind_of_ok h]
  refine ⟨_, rfl, ?_⟩
  cases cause? with
  | none => exact iff_of_true rfl rfl
  | some cause => exact iff_of_false (by cases cause <;> nofun) nofun

variable {inv : Invocation} {target : String}

/-- What is printed about a single target are the complaints about it. -/
theorem run_mkdir_single {parents : Bool} {lines : List String} {s' : State}
    (hparents : (inv.hasLetter 'p' || inv.hasFlag "--parents") = parents)
    (htarget : inv.args = [target]) (h : (mkdirTarget c parents target).run s = (.ok lines, s')) :
    (mkdir c inv).run s = (.ok (Text.block lines), s') := by
  have hsingle : ([target].mapM (mkdirTarget c parents)).run s = (.ok [lines], s') := by
    rw [List.mapM_cons, run_bind_of_ok h]
    rfl
  unfold mkdir complaints
  rw [htarget, hparents, List.isEmpty_cons, if_neg Bool.false_ne_true, run_bind_of_ok hsingle,
    List.flatten_cons, List.flatten_nil, List.append_nil]
  rfl

/-- Nothing is printed exactly if everything on the way could be made. -/
theorem run_mkdir_parents (hparents : (inv.hasLetter 'p' || inv.hasFlag "--parents") = true)
    (htarget : inv.args = [target]) {s' : State} {cause? : Option PathFault}
    (h : (makeMissing c (wayTo (s.files.resolve target))).run s = (.ok cause?, s')) :
    ∃ out, (mkdir c inv).run s = (.ok out, s') ∧ (out = "" ↔ cause? = none) := by
  obtain ⟨lines, hrun, hlines⟩ := run_mkdirTarget_parents h
  exact ⟨Text.block lines, run_mkdir_single hparents htarget hrun,
    Text.block_eq_empty_iff.trans hlines⟩

/-- **What `mkdir` with parents does** in any session of a shipped device. It prints nothing exactly
if nothing but directories stands above what is missing, and then the place and everything above it
is there, and there is nothing left to do for it. These are all directories exactly if nothing else
stood at any of the places, the place itself included: that it is a file is not complained about.
Whatever is printed, everything that was there is as it was. -/
theorem mkdir_parents_iff (c : Context) {s : State} (hfs : s.files.Reachable)
    (hparents : (inv.hasLetter 'p' || inv.hasFlag "--parents") = true)
    (htarget : inv.args = [target]) :
    ∃ out files, (mkdir c inv).run s = (.ok out, { s with files }) ∧ files.Extends s.files ∧
      (out = "" ↔ s.files.HasWay (s.files.resolve target)) ∧
      (out = "" →
        (∀ q, q <+: s.files.resolve target → (files.lookup q).isSome = true) ∧
        ((∀ q, q <+: s.files.resolve target →
            ∃ dir, files.lookup q = some dir ∧ dir.isDirectory = true) ↔
          ∀ q, q <+: s.files.resolve target →
            ∀ node, s.files.standing q = some node → node.isDirectory = true) ∧
        ∀ c' : Context, (mkdir c' inv).run { s with files } = (.ok "", { s with files })) := by
  have hplace : (s.files.resolve target).IsCanonical := Path.isCanonical_resolve _ _ _
  obtain ⟨cause?, files, hway, hall, hiff, hpaved⟩ :=
    exists_run_makeMissing_wayTo (c := c) hfs.kept hfs.hasRoot hplace
  obtain ⟨out, hrun, hout⟩ := run_mkdir_parents hparents htarget hway
  refine ⟨out, files, hrun, hall, hout.trans hiff, fun hsilent => ?_⟩
  have hpaved := hpaved (hout.mp hsilent)
  have hfound : ∀ q, q <+: s.files.resolve target → (files.lookup q).isSome = true := fun q hpre =>
    Option.isSome_of_eq_some (hpaved.made q hpre)
  refine ⟨hfound, hpaved.directories_iff, fun c' => ?_⟩
  have hagain : (makeMissing c' (wayTo (files.resolve target))).run { s with files } =
      (.ok none, { s with files }) := by
    rw [hpaved.resolved]
    exact run_makeMissing_wayTo_of_found hplace hfound
  obtain ⟨out', hrun', hout'⟩ := run_mkdir_parents (s := { s with files }) hparents htarget hagain
  rw [hrun', hout'.mpr rfl]

/-- The home of the superuser in a new session. -/
def rootsHome : State := { bare with files := FileSystem.exampleView }

/-- Two directories at once. -/
theorem mkdir_parents_iff_example :
    (rootsHome.files.Reachable ∧
      ((Invocation.ofWords "mkdir" ["-p", "/tmp/d/d"]).hasLetter 'p' ||
        (Invocation.ofWords "mkdir" ["-p", "/tmp/d/d"]).hasFlag "--parents") = true ∧
      (Invocation.ofWords "mkdir" ["-p", "/tmp/d/d"]).args = ["/tmp/d/d"]) ∧
    ∃ files, (mkdir superuser (.ofWords "mkdir" ["-p", "/tmp/d/d"])).run rootsHome =
        (.ok "", { rootsHome with files }) ∧
      ∀ q, q <+: ["tmp", "d", "d"] → ∃ dir, files.lookup q = some dir ∧ dir.isDirectory = true := by
  have hreachable : rootsHome.files.Reachable := FileSystem.reachable_exampleView
  have hparents : ((Invocation.ofWords "mkdir" ["-p", "/tmp/d/d"]).hasLetter 'p' ||
      (Invocation.ofWords "mkdir" ["-p", "/tmp/d/d"]).hasFlag "--parents") = true := by
    decide +kernel
  have htarget : (Invocation.ofWords "mkdir" ["-p", "/tmp/d/d"]).args = ["/tmp/d/d"] := by decide
  have hplace : rootsHome.files.resolve "/tmp/d/d" = FileSystem.nest 2 :=
    FileSystem.resolve_text (FileSystem.isCanonical_nest 2)
  have hdirectories : ∀ q, q <+: FileSystem.nest 2 →
      ∀ node, rootsHome.files.standing q = some node → node.isDirectory = true := by
    intro q hpre node hnode
    have hnested := FileSystem.isNested_zero
    rw [← FileSystem.lookup_eq_standing fun _ hmem => (List.not_mem_nil hmem).elim] at hnode
    obtain rfl | hpre := (Path.prefix_append_name_iff (p := FileSystem.nest 1)).mp hpre
    · cases (hnested.vacant 2 (by decide)).symm.trans hnode
    obtain rfl | hpre := (Path.prefix_append_name_iff (p := FileSystem.nest 0)).mp hpre
    · cases (hnested.vacant 1 (by decide)).symm.trans hnode
    obtain rfl | hpre := (Path.prefix_append_name_iff (p := [])).mp hpre
    · obtain ⟨dir, hdir, hdirectory⟩ := hnested.inner
      cases hdir.symm.trans hnode
      exact hdirectory
    · obtain ⟨root, hroot, hdirectory⟩ := hreachable.hasRoot
      rw [List.prefix_nil.mp hpre] at hnode
      cases hroot.symm.trans hnode
      exact hdirectory
  obtain ⟨out, files, hrun, -, hsilent, hmade⟩ :=
    mkdir_parents_iff superuser hreachable hparents htarget
  rw [hplace] at hsilent hmade
  obtain rfl := hsilent.mpr (FileSystem.hasWay_of_directories hdirectories)
  exact ⟨⟨hreachable, hparents, htarget⟩, files, hrun, (hmade rfl).2.1.mpr hdirectories⟩

/-- A file is passed over in silence, although it is complained about without the option. -/
theorem mkdir_parents_passes_over_file :
    rootsHome.files.Reachable ∧
    (mkdir superuser (.ofWords "mkdir" ["-p", "/bin/ls"])).run rootsHome = (.ok "", rootsHome) ∧
    rootsHome.files.resolve "/bin/ls" = ["bin", "ls"] ∧
    (∃ node, rootsHome.files.lookup ["bin", "ls"] = some node ∧ node.isDirectory = false) ∧
    (mkdir superuser (.ofWords "mkdir" ["/bin/ls"])).run rootsHome =
      (.ok "mkdir: cannot create directory '/bin/ls': File exists\n", rootsHome) := by
  have hcanonical : Path.IsCanonical ["bin", "ls"] := by decide
  have hplace : rootsHome.files.resolve "/bin/ls" = ["bin", "ls"] :=
    FileSystem.resolve_text hcanonical
  have hprogram : Layout.file ["bin", "ls"] (.fixed Node.programStub) 0o755 ∈
      Layout.programFiles Persona.raspberryPi := by
    simp [Layout.programFiles, Layout.programs, Layout.binNames]
  obtain ⟨node, hnode, hisProgram, -⟩ := Layout.lookup_program List.mem_cons_self hprogram
  have hfound : rootsHome.files.lookup ["bin", "ls"] = some node := hnode
  have hway : (makeMissing superuser (wayTo (rootsHome.files.resolve "/bin/ls"))).run rootsHome =
      (.ok none, rootsHome) := by
    rw [hplace]
    refine run_makeMissing_wayTo_of_found hcanonical fun q hpre => ?_
    obtain ⟨rest, hrest⟩ := hpre
    have hshaped : (Layout.tree Persona.raspberryPi).Shaped := Layout.shaped_tree List.mem_cons_self
    exact hshaped.isSome_of_append (q := rest) (hrest ▸ Option.isSome_of_eq_some hnode)
  have htarget : (Invocation.ofWords "mkdir" ["-p", "/bin/ls"]).args = ["/bin/ls"] := by decide
  obtain ⟨out, hrun, hout⟩ := run_mkdir_parents (by decide +kernel) htarget hway
  obtain rfl := hout.mpr rfl
  have hmake : rootsHome.files.makeDirectory "/bin/ls" superuser.user superuser.now =
      .error ⟨.alreadyThere, "/bin/ls"⟩ :=
    FileSystem.makeDirectory_of_found (hplace.symm ▸ Option.isSome_of_eq_some hfound) _ _
  have hattempt : (Action.attempt fun fs =>
      fs.makeDirectory "/bin/ls" superuser.user superuser.now).run rootsHome =
        (.ok (some .alreadyThere), rootsHome) := by
    rw [Action.run_attempt, hmake]
  have hcomplains : (mkdirTarget superuser false "/bin/ls").run rootsHome =
      (.ok ["mkdir: cannot create directory '/bin/ls': File exists"], rootsHome) := by
    unfold mkdirTarget
    rw [if_neg Bool.false_ne_true, run_bind_of_ok hattempt]
    rfl
  have hplain : (Invocation.ofWords "mkdir" ["/bin/ls"]).args = ["/bin/ls"] := by decide
  exact ⟨FileSystem.reachable_exampleView, hrun, hplace,
    ⟨node, hfound, isDirectory_of_isProgram hisProgram⟩,
    run_mkdir_single (by decide +kernel) hplain hcomplains⟩

end Honeypot.Shell
