import PluginRelease.Proofs.Build.Run
import PluginRelease.Proofs.Text.Lines
import PluginRelease.Proofs.Workspace.Beside

/-!
Products of a recipe. As written their paths lie beside the recipe, but the build sees relative ones
from its working directory, and the recipe itself from the current folder.
-/
namespace PluginRelease

namespace Path
open Text
variable {p : Path} {name stem : Bytes} {extension : String}

/-- The name of a product: the name of a plugin with an extension. -/
def product (name extension : String) : Bytes := Utf8.ofText (name ++ "." ++ extension)

theorem product_eq (name extension : String) :
    product name extension = Utf8.ofText name ++ point :: Utf8.ofText extension := by
  rw [product, Utf8.ofText_append, Utf8.ofText_append, List.append_assoc]
  rfl

theorem stem_subset (name : Bytes) : (splitName name).1 ⊆ name := by
  unfold splitName
  dsimp only
  split
  · exact List.Subset.refl name
  · obtain ⟨t, ht, -⟩ := exists_dropEndWhile_append (fun c => decide (c ≠ point)) name
    intro c hc
    rw [ht]
    exact List.mem_append_left _ (List.dropLast_subset _ hc)

theorem exists_fileName_of_stem (h : p.stem? = some stem) :
    ∃ name, p.fileName? = some name ∧ stem ⊆ name := by
  obtain ⟨name, hname, rfl⟩ := Option.map_eq_some_iff.mp h
  exact ⟨name, hname, stem_subset name⟩

/-- A stem that is no text is shown with other bytes, but those are no separators. -/
theorem not_mem_product {c : UInt8} (hc : c.toNat < 0x80) (hpoint : c ≠ point)
    (hstem : c ∉ stem) (hextension : c ∉ Utf8.ofText extension) :
    c ∉ product (Utf8.shown stem) extension := by
  have hshown : c ∉ Utf8.ofText (Utf8.shown stem) :=
    fun hmem => hstem (Utf8.mem_of_mem_ofText_shown hc hmem)
  rw [product_eq]
  simp [hpoint, hshown, hextension]

theorem isPlain_product (hname : IsPlain name) (hstem : stem ⊆ name)
    (hextension : extension ∈ ["zip", "vba", "yml"]) :
    IsPlain (product (Utf8.shown stem) extension) := by
  have hend : (Utf8.ofText extension).length = 3 ∧ slash ∉ Utf8.ofText extension ∧
      0 ∉ Utf8.ofText extension := by
    simp only [List.mem_cons, List.not_mem_nil, or_false] at hextension
    rcases hextension with rfl | rfl | rfl <;> decide
  obtain ⟨hlength, hslash, hnul⟩ := hend
  have hlong : 3 < (product (Utf8.shown stem) extension).length := by
    simp [product_eq, hlength]
  refine ⟨not_mem_product (by decide) (by decide) (fun h => hname.slash (hstem h)) hslash,
    not_mem_product (by decide) (by decide) (fun h => hname.nul (hstem h)) hnul, ?_, ?_⟩
  · rw [Bool.eq_false_iff]
    intro hsilent
    rcases Bool.or_eq_true_iff.mp hsilent with hempty | hdot
    · rw [List.isEmpty_iff.mp hempty] at hlong
      exact absurd hlong (by decide)
    · rw [beq_iff_eq.mp hdot] at hlong
      exact absurd hlong (by decide)
  · intro hparent
    rw [hparent] at hlong
    exact absurd hlong (by decide)

/-- The path of a product does not stand for standard output. -/
theorem sibling_product_ne {plugin : String} (hname : p.fileName? = some name)
    (hslash : slash ∉ product plugin extension) : p.sibling (product plugin extension) ≠ "-" := by
  obtain ⟨folders, -, -, -, -, -, hsibling⟩ := exists_splitOn_sibling hname hslash
  intro hdash
  rw [hdash] at hsibling
  have hlast := congrArg List.getLast? hsibling
  rw [List.getLast?_concat] at hlast
  have hproduct : product plugin extension = Utf8.ofText "-" := (Option.some.inj hlast).symm
  have hpoint : point ∈ product plugin extension := by simp [product_eq]
  rw [hproduct] at hpoint
  exact absurd hpoint (by decide)

end Path

namespace BuildConfig
open PluginRelease.Path
variable {c applied : BuildConfig} {w : Workspace} {o : BuildOverrides} {recipe : Path}
  {folder : Location} {stem : Bytes}

theorem exists_of_expandRecipe (h : c.expandRecipe w recipe = .ok applied) : ∃ content stem,
    w.readText recipe = .ok content ∧ recipe.stem? = some stem ∧ applied = { c with
      files := recipeFiles content
      name := some (Utf8.shown stem)
      archive := c.archive.or
        (some (recipe.sibling (product (Utf8.shown stem) c.format.extension)))
      outfile := c.outfile.or (some (recipe.sibling (product (Utf8.shown stem) "yml"))) } := by
  unfold expandRecipe at h
  split at h
  · cases h
  · next content hcontent =>
    split at h
    · cases h
    · next stem hstem => exact ⟨content, stem, hcontent, hstem, (Except.ok.inj h).symm⟩

theorem expandRecipe_of_apply (h : c.apply w o = .ok applied)
    (hrecipe : o.recipe.or c.recipe = some recipe) :
    (c.override o).expandRecipe w recipe = .ok applied := by
  have hgiven : (c.override o).recipe = some recipe := hrecipe
  unfold apply at h
  split at h
  · cases h
  · dsimp only at h
    rwa [hgiven] at h

/-- The archive and the output file of a build lie in a folder, under the name of the plugin. -/
structure ProductsIn (c : BuildConfig) (w : Workspace) (folder : Location) (name : String) :
    Prop where
  archive : w.LeadsTo c.archivePath (folder ++ [product name c.format.extension])
  outfile : ∃ p, c.outputPath = some p ∧ w.LeadsTo p (folder ++ [product name "yml"])

theorem productsIn_of_leadsTo {name : Bytes} (hname : recipe.fileName? = some name)
    (hplain : IsPlain name) (hstem : stem ⊆ name)
    (harchive : c.archive =
      some (recipe.sibling (product (Utf8.shown stem) c.format.extension)))
    (hout : c.outfile = some (recipe.sibling (product (Utf8.shown stem) "yml")))
    (h : ∀ x, IsPlain x → w.LeadsTo (c.resolve (recipe.sibling x)) (folder ++ [x])) :
    c.ProductsIn w folder (Utf8.shown stem) := by
  have hformat : c.format.extension ∈ ["zip", "vba", "yml"] := by
    cases c.format <;> decide
  have hyml : IsPlain (product (Utf8.shown stem) "yml") :=
    isPlain_product hplain hstem (by decide)
  refine ⟨?_, _, outputPath_eq_some hout (sibling_product_ne hname hyml.slash), h _ hyml⟩
  rw [archivePath, harchive]
  exact h _ (isPlain_product hplain hstem hformat)

/-- What a recipe gives without an archive and an output file of their own. As written they lie
beside the recipe that was read; so they do for a build in the current folder and for an absolute
recipe. Otherwise the build sees them from its working directory, beside the place where the path of
the recipe leads when it is seen from there. -/
theorem recipe_products (happly : c.apply w o = .ok applied)
    (hrecipe : o.recipe.or c.recipe = some recipe) (harchive : o.archive.or c.archive = none)
    (hout : o.outfile.or c.outfile = none) : ∃ folder name stem content,
      recipe.fileName? = some name ∧ recipe.stem? = some stem ∧
      w.locate recipe = .ok (folder ++ [name]) ∧ w.readText recipe = .ok content ∧
      applied.files = recipeFiles content ∧ applied.name = some (Utf8.shown stem) ∧
      applied.archive = some (recipe.sibling (product (Utf8.shown stem) applied.format.extension)) ∧
      applied.outfile = some (recipe.sibling (product (Utf8.shown stem) "yml")) ∧
      (∀ extension ∈ ["zip", "vba", "yml"],
        w.LeadsTo (recipe.sibling (product (Utf8.shown stem) extension))
          (folder ++ [product (Utf8.shown stem) extension])) ∧
      (recipe.isAbsolute = true ∨ applied.dir.bytes = [] ∨ w.locate applied.dir = .ok w.here →
        applied.ProductsIn w folder (Utf8.shown stem)) ∧
      (∀ d seen, recipe.isAbsolute = false → w.locate applied.dir = .ok d →
        Workspace.locate { w with here := d } recipe = .ok (seen ++ [name]) →
          applied.ProductsIn w seen (Utf8.shown stem)) := by
  obtain ⟨content, stem, hcontent, hstem, happlied⟩ :=
    exists_of_expandRecipe (expandRecipe_of_apply happly hrecipe)
  obtain ⟨name, hname, hsubset⟩ := exists_fileName_of_stem hstem
  obtain ⟨bytes, hbytes, -⟩ := exists_of_bind hcontent
  obtain ⟨l, hl, -⟩ := Workspace.exists_of_read hbytes
  obtain ⟨folder, rfl⟩ := Workspace.exists_folder_of_locate hname hl
  have hplain : IsPlain name := Workspace.isPlain_of_locate hname hl
  have hbeside (x : Bytes) (hx : IsPlain x) :
      w.LeadsTo (recipe.sibling x) (folder ++ [x]) := Workspace.leadsTo_sibling hname hx hl
  have harchive : applied.archive =
      some (recipe.sibling (product (Utf8.shown stem) applied.format.extension)) := by
    rw [happlied]
    change (o.archive.or c.archive).or _ = _
    rw [harchive]
    rfl
  have hout : applied.outfile = some (recipe.sibling (product (Utf8.shown stem) "yml")) := by
    rw [happlied]
    change (o.outfile.or c.outfile).or _ = _
    rw [hout]
    rfl
  refine ⟨folder, name, stem, content, hname, hstem, hl, hcontent, ?_, ?_, harchive, hout, ?_, ?_,
    ?_⟩
  · rw [happlied]
  · rw [happlied]
  · intro extension hextension
    exact hbeside _ (isPlain_product hplain hsubset hextension)
  · intro hdir
    apply productsIn_of_leadsTo hname hplain hsubset harchive hout
    intro x hx
    apply Workspace.leadsTo_join_here (hbeside x hx)
    rwa [isAbsolute_sibling hname hx.slash]
  · intro d seen hrelative hdir hseen
    apply productsIn_of_leadsTo hname hplain hsubset harchive hout
    intro x hx
    apply Workspace.leadsTo_join _ hdir (Workspace.leadsTo_sibling hname hx hseen)
    rwa [isAbsolute_sibling hname hx.slash]

/-- A recipe in a folder, and a build in the current one. -/
theorem recipe_products_of_here :
    let w : Workspace := ⟨[([Utf8.ofText "r"], .folder),
      (["r", "a.recipe"].map Utf8.ofText, .file (Utf8.encode "a.vim\n".toList))], []⟩
    let o : BuildOverrides := { BuildOverrides.empty with recipe := some "r/a.recipe" }
    ∃ c, BuildConfig.default.apply w o = .ok c ∧ c.ProductsIn w [Utf8.ofText "r"] "a" := by
  intro w o
  have happly : BuildConfig.default.apply w o = .ok { BuildConfig.default with
      files := ["a.vim"], name := some "a", archive := some "r/a.vba",
      outfile := some "r/a.yml", recipe := some "r/a.recipe" } :=
    eq_ok_of_toOption (by decide +kernel +revert)
  obtain ⟨folder, name, stem, -, hname, hstem, hl, -, -, -, -, -, -, hhere, -⟩ :=
    recipe_products happly rfl rfl rfl
  have hlocate : w.locate "r/a.recipe" = .ok (["r", "a.recipe"].map Utf8.ofText) := rfl
  have hrecipe : Path.fileName? "r/a.recipe" = some (Utf8.ofText "a.recipe") := by decide +kernel
  have hfirst : Path.stem? "r/a.recipe" = some (Utf8.ofText "a") := by decide +kernel
  obtain rfl := Option.some.inj (hrecipe.symm.trans hname)
  obtain rfl := Option.some.inj (hfirst.symm.trans hstem)
  obtain rfl : [Utf8.ofText "r"] = folder :=
    List.append_cancel_right (Except.ok.inj (hlocate.symm.trans hl))
  rw [Utf8.shown_ofText] at hhere
  exact ⟨_, happly, hhere (.inr (.inr rfl))⟩

/-- A build in another folder, which sees the archive there and not beside the recipe. -/
theorem recipe_products_of_subfolder :
    let w : Workspace := ⟨[([Utf8.ofText "sub"], .folder),
      ([Utf8.ofText "a.recipe"], .file (Utf8.encode "a.vim\n".toList)),
      ([Utf8.ofText "a.vba"], .file [0x61])], []⟩
    let o : BuildOverrides :=
      { BuildOverrides.empty with dir := some "sub", recipe := some "a.recipe" }
    ∃ c out, BuildConfig.default.apply w o = .ok c ∧
      w.locate "a.recipe" = .ok [Utf8.ofText "a.recipe"] ∧ w.isFile "a.vba" = true ∧
      w.locate c.archivePath = .ok (["sub", "a.vba"].map Utf8.ofText) ∧
      c.outputPath = some out ∧ w.locate out = .ok (["sub", "a.yml"].map Utf8.ofText) ∧
      c.validate w = .error (.config (.missingFile "Distribution archive" "sub/a.vba")) := by
  intro w o
  have happly : BuildConfig.default.apply w o = .ok { BuildConfig.default with
      dir := "sub", files := ["a.vim"], name := some "a", archive := some "a.vba",
      outfile := some "a.yml", recipe := some "a.recipe" } :=
    eq_ok_of_toOption (by decide +kernel +revert)
  exact ⟨_, "sub/a.yml", happly, rfl, rfl, rfl, rfl, rfl, rfl⟩

end BuildConfig
end PluginRelease
