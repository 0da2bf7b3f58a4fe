import VpcOperator.Proofs.Order.Steps
import VpcOperator.Proofs.Passes
import VpcOperator.Proofs.Provenance.Steps

/-! # When an image is created

An image is created once none is found. What is looked up is one name: the
declared one, unless another is remembered. Passes remember no name without its
ID, though, so from one pass to the next it is the declared one.
-/

namespace VpcOperator

open Observed (Status)

namespace Pass.Image

variable {α : Type} {plan : Plan} {image : Desired.Image} {s s' : Status} {before after : Trace}
  {exchange : Exchange} {prototype : Cloud.ImagePrototype}
  {reply : Cloud.Reply Cloud.Image} {r : Except Failure Outcome}

theorem need_exchange {field : String} {value : Option String} {next : String → Pass α}
    {r : Except Failure α}
    (hrun : (need image field value >>= next).Runs s (before ++ exchange :: after) r s') :
    ∃ text, (next text).Runs s (before ++ exchange :: after) r s' := by
  unfold need at hrun
  split at hrun
  · exact ⟨_, hrun⟩
  · rcases runs_bind.1 hrun with ⟨_, _, _, _, _, hfail, _⟩ | ⟨_, _, hfail⟩
    · obtain ⟨-, hfail, -⟩ := runs_fail.1 hfail
      cases hfail
    · obtain ⟨ht, -, -⟩ := runs_fail.1 hfail
      simp at ht

/-- Until the image is asked for, all that is done is to tell its resource group. -/
theorem create_asks
    (hrun : (create plan image).Runs s (before ++ ⟨.createImage prototype, reply⟩ :: after) r s') :
    (resourceGroupId plan image).Runs s before (.ok prototype.resourceGroupId) s ∧
      prototype.name = image.name := by
  obtain ⟨_, hrun⟩ := need_exchange hrun
  obtain ⟨bucket, hrun⟩ := need_exchange hrun
  obtain ⟨object, hrun⟩ := need_exchange hrun
  obtain ⟨operatingSystem, hrun⟩ := need_exchange hrun
  rcases runs_bind.1 hrun with ⟨id, mid, place, rest, ht, hplace, hrest⟩ | ⟨e, -, hplace⟩
  · obtain rfl := resourceGroupId_quiet plan image hplace
    have hnothing := (resourceGroupId_does plan image hplace).changes_nothing
    obtain ⟨between, rfl, rfl⟩ := Trace.append_eq_split_of_not_mem ht.symm (hnothing.not_mem rfl)
    -- the image is asked for once; what follows, if anything, is its tag
    obtain ⟨own, asked, last, hasked, hown, htags⟩ : ∃ own asked last,
        between ++ ⟨.createImage prototype, reply⟩ :: after = ⟨.createImage own, asked⟩ :: last ∧
          (own.resourceGroupId = id ∧ own.name = image.name) ∧
          ∀ exchange ∈ last, exchange.request.kind = .tag := by
      rcases runs_call_bind.1 hrest with ⟨live, last, hasked, hlast⟩ | ⟨asked, e, hasked, -⟩
      · refine ⟨_, _, last, hasked, ⟨rfl, rfl⟩, fun exchange hmem => ?_⟩
        have hmark : Does [.shelf .image] [.tag] [.tag] mid last s' :=
          Always.bind (.puts (by simp) _ _)
            (fun _ => .bind ((Ownership.mark_does plan _ _ _).wider (by simp) (by simp) (by simp))
              fun _ => .pure _) hlast
        have hkind := hmark.asks exchange hmem
        rw [ite_self] at hkind
        exact List.mem_singleton.1 hkind
      · exact ⟨_, asked, [], hasked, ⟨rfl, rfl⟩, List.forall_mem_nil _⟩
    cases between with
    | nil =>
      cases hasked
      rw [List.append_nil, hown.1]
      exact ⟨hplace, hown.2⟩
    | cons head between =>
      obtain ⟨-, rfl⟩ := List.cons_eq_cons.1 hasked
      simpa using htags ⟨.createImage prototype, reply⟩ (by simp)
  · have hmem : (⟨.createImage prototype, reply⟩ : Exchange) ∈
        before ++ ⟨.createImage prototype, reply⟩ :: after := by simp
    exact absurd hmem ((resourceGroupId_does plan image hplace).changes_nothing.not_mem rfl)

/-- What has gone before when the step asks for an image. -/
structure Sought (plan : Plan) (s : Status) (image : Desired.Image)
    (prototype : Cloud.ImagePrototype) (before : Trace) : Prop where
  declared : plan.spec.image = some image
  named : prototype.name = image.name
  unknown : ∀ entry, s.find? .image "" = some entry → entry.id = ""
  steps : ∃ search place, before = search ++ place ∧
    (findByName (wantedName (s.find? .image "") (some image))).Runs s search (.ok none) s ∧
    (resourceGroupId plan image).Runs s place (.ok prototype.resourceGroupId) s

theorem findByName_none {name : String} {t : Trace}
    (hrun : (findByName name).Runs s t (.ok none) s') :
    t = if name = "" then [] else [⟨.findImage name, .answer none⟩] := by
  unfold findByName at hrun
  split at hrun
  · rename_i hblank
    rw [if_pos hblank]
    exact (runs_pure.1 hrun).1
  · rename_i hname
    rw [if_neg hname]
    exact (runs_call_ok.1 hrun).1

theorem observe_asks_nothing {live : Cloud.Image} {t : Trace}
    (hrun : (observe live).Runs s t r s') : t = [] :=
  (runs_pure.1 hrun).1

theorem step_asks
    (hrun : (step plan).Runs s (before ++ ⟨.createImage prototype, reply⟩ :: after) r s') :
    ∃ image, Sought plan s image prototype before := by
  have hmem : (⟨.createImage prototype, reply⟩ : Exchange) ∈
      before ++ ⟨.createImage prototype, reply⟩ :: after := by simp
  unfold step at hrun
  rw [runs_status_bind] at hrun
  dsimp only at hrun
  split at hrun
  · simp at hrun
  · split at hrun
    · rename_i hunknown
      have hunknown : ∀ entry, s.find? .image "" = some entry → entry.id = "" := by
        intro entry hentry
        simpa [hentry] using hunknown
      rcases runs_bind.1 hrun with ⟨found, mid, search, rest, ht, hsearch, hrest⟩ | ⟨e, -, hsearch⟩
      · obtain rfl := (findByName_quiet _ hsearch).symm
        obtain ⟨between, rfl, rfl⟩ := Trace.append_eq_split_of_not_mem ht.symm
          ((findByName_does _ hsearch).changes_nothing.not_mem rfl)
        cases found with
        | some live => simpa using observe_asks_nothing hrest
        | none =>
          dsimp only at hrest
          split at hrest
          · rename_i image himage
            rw [himage] at hsearch
            obtain ⟨hplace, hnamed⟩ := create_asks hrest
            exact ⟨image, himage, hnamed, hunknown, search, between, rfl, hsearch, hplace⟩
          · simp at hrest
      · exact absurd hmem ((findByName_does _ hsearch).changes_nothing.not_mem rfl)
    · split at hrun
      · simp at hrun
      · -- an image that is remembered by its ID is looked at, and no more
        rcases runs_call_bind.1 hrun with ⟨found, rest, ht, hrest⟩ | ⟨_, e, ht, -⟩
        · have hlast : rest = [] := by
            split at hrest
            · exact observe_asks_nothing hrest
            · exact (runs_fail.1 hrest).1
          rw [ht, hlast] at hmem
          simp at hmem
        · rw [ht] at hmem
          simp at hmem

/-- The name that images are looked for under before one of this name is created: another one, if that
is remembered. -/
def soughtName (s : Status) (name : String) : String :=
  (given? ((s.find? .image "").map (·.name))).getD name

theorem wantedName_some (s : Status) (image : Desired.Image) :
    wantedName (s.find? .image "") (some image) = soughtName s image.name := by
  unfold wantedName soughtName
  cases given? ((s.find? .image "").map (·.name)) <;> rfl

theorem soughtName_eq_self_iff {name : String} :
    soughtName s name = name ↔
      ∀ entry, s.find? .image "" = some entry → entry.name = "" ∨ entry.name = name := by
  unfold soughtName
  cases s.find? .image "" with
  | none => simp [given?]
  | some entry => by_cases h : entry.name = "" <;> simp [given?, Option.filter, h]

/-- No image is looked up by name while a resource group is told. -/
theorem Sought.looksUp (h : Sought plan s image prototype before) {name : String}
    {found : Cloud.Reply (Option Cloud.Image)} :
    ⟨.findImage name, found⟩ ∈ before ↔
      name = soughtName s prototype.name ∧ name ≠ "" ∧ found = .answer none := by
  obtain ⟨search, place, rfl, hsearch, hplace⟩ := h.steps
  have hplace : (⟨.findImage name, found⟩ : Exchange) ∉ place := by
    intro hmem
    simpa using (resourceGroupId_does plan image hplace).asks _ hmem
  rw [wantedName_some, ← h.named] at hsearch
  rw [List.mem_append, or_iff_left hplace, findByName_none hsearch]
  split
  · rename_i hblank
    simp only [List.not_mem_nil, false_iff]
    rintro ⟨rfl, hname, -⟩
    exact hname hblank
  · rename_i hname
    rw [List.mem_singleton]
    constructor
    · intro hsame
      cases hsame
      exact ⟨rfl, hname, rfl⟩
    · rintro ⟨rfl, -, rfl⟩
      rfl

/-- An image is asked for when none is remembered by its ID and the sought name is looked up in vain.
So its own name is looked up just if it has one and no other name is remembered. -/
theorem step_creates_unfound
    (hrun : (step plan).Runs s (before ++ ⟨.createImage prototype, reply⟩ :: after) r s') :
    (∃ image, plan.spec.image = some image ∧ prototype.name = image.name) ∧
    (∀ entry, s.find? .image "" = some entry → entry.id = "") ∧
    (soughtName s prototype.name ≠ "" →
      ⟨.findImage (soughtName s prototype.name), .answer none⟩ ∈ before) ∧
    (⟨.findImage prototype.name, .answer none⟩ ∈ before ↔ prototype.name ≠ "" ∧
      ∀ entry, s.find? .image "" = some entry → entry.name = "" ∨ entry.name = prototype.name) := by
  obtain ⟨image, hsought⟩ := step_asks hrun
  refine ⟨⟨image, hsought.declared, hsought.named⟩, hsought.unknown, fun hname => ?_, ?_⟩
  · exact hsought.looksUp.2 ⟨rfl, hname, rfl⟩
  · rw [hsought.looksUp, ← soughtName_eq_self_iff]
    constructor
    · rintro ⟨hself, hname, -⟩
      exact ⟨hname, hself.symm⟩
    · rintro ⟨hname, hself⟩
      exact ⟨hself.symm, hname, rfl⟩

end Pass.Image

/-! ## Pass after pass -/

/-- The image an exchange was answered with. -/
def Exchange.image? : Exchange → Option Cloud.Image
  | ⟨.getImage _, .answer found⟩ => found
  | ⟨.findImage _, .answer found⟩ => found
  | ⟨.createImage _, .answer image⟩ => some image
  | _ => none

theorem Exchange.Backs.image {name : String} {entry : Observed.Entry} {exchange : Exchange}
    (h : exchange.Backs .image name entry) :
    ∃ image, exchange.image? = some image ∧ entry.id = image.id := by
  unfold Backs at h
  split at h <;> first | exact ⟨_, rfl, h.1⟩ | contradiction

/-- Every image that was shown has an ID. -/
def Trace.IdentifiesImages (t : Trace) : Prop :=
  ∀ exchange ∈ t, ∀ image, exchange.image? = some image → image.id ≠ ""

theorem Passes.image_identified {past : History} {s : Status} (h : Passes .empty past s)
    (hids : ∀ pass ∈ past, pass.2.IdentifiesImages) :
    ∀ entry, s.find? .image "" = some entry → entry.id ≠ "" := by
  have hkept := h.induct
    (P := fun s => s.KeyedById ∧ ∀ entry, s.find? .image "" = some entry → entry.id ≠ "")
    (Q := fun _ => True) ?_ ⟨nofun, nofun⟩
  · exact hkept.1.2
  · rintro pass r start stop hmem hrun ⟨hkeyed, hstart⟩
    have hafter : Pass.After [] start pass.2 stop := Pass.standard_after pass.1 hrun
    obtain ⟨hstop, hprogress⟩ := hafter hkeyed
    refine ⟨⟨hstop, fun entry hentry => ?_⟩, trivial⟩
    by_cases hsame : start.find? .image "" = some entry
    · exact hstart entry hsame
    · obtain ⟨exchange, hexchange, hbacks⟩ := (hprogress.entries .image "").backs entry hentry hsame
      obtain ⟨image, himage, hid⟩ := hbacks.image
      rw [hid]
      exact hids pass hmem exchange hexchange image himage

namespace Pass

variable {plan : Plan} {s s' : Status} {before after : Trace} {prototype : Cloud.ImagePrototype}
  {reply : Cloud.Reply Cloud.Image} {r : Except Failure Outcome}

theorem Reaches.of_createImage
    (hrun : (standard plan).Runs s (before ++ ⟨.createImage prototype, reply⟩ :: after) r s') :
    Reaches plan s (Step.earlier .image) .image ⟨.createImage prototype, reply⟩ before :=
  standard_reaches_of hrun fun step => by cases step <;> simp [Step.makes]

/-- With nothing remembered but what passes have made of no status at all, it is the image's own name
that is looked up in vain. -/
theorem standard_creates_unfound {past : History} (hpast : Passes .empty past s)
    (hids : ∀ pass ∈ past, pass.2.IdentifiesImages)
    (hrun : (standard plan).Runs s (before ++ ⟨.createImage prototype, reply⟩ :: after) r s')
    (hname : prototype.name ≠ "") : ⟨.findImage prototype.name, .answer none⟩ ∈ before := by
  cases Reaches.of_createImage hrun with
  | @intro start _ first inner _ _ hdone hstep =>
    have himage : Status.Same (.shelf .image) s start := runSteps_same (by decide) hdone
    obtain ⟨image, hsought⟩ := Image.step_asks hstep
    have hnone : ∀ entry, start.find? .image "" ≠ some entry := by
      intro entry hentry
      have hremembered := (himage.find? "").symm.trans hentry
      exact hpast.image_identified hids entry hremembered (hsought.unknown entry hentry)
    have hself : Image.soughtName start prototype.name = prototype.name :=
      Image.soughtName_eq_self_iff.2 fun entry hentry => absurd hentry (hnone entry)
    exact List.mem_append_right first (hsought.looksUp.2 ⟨hself.symm, hname, rfl⟩)

end Pass

namespace Pass.Image

/-! ### An image whose ID is not remembered -/

def importedImage (name : String) : Desired.Image :=
  { name, instanceName := some "i", bucket := some "b", bucketRegion := none, object := some "o"
    operatingSystem := some "os", resourceGroup := none }

def importingPlan : Plan :=
  { Plan.bare "a" with
    spec := { (Plan.bare "a").spec with region := "r", image := some (importedImage "n") } }

/-- Of the image this name is all that is remembered. -/
def forgottenStatus (name : String) : Status :=
  (Status.empty.putResourceGroup ⟨"1", some "a"⟩).put .image "" ⟨"", name, false⟩

def importedPrototype : Cloud.ImagePrototype :=
  { name := "n", resourceGroupId := "1", source := "cos://r/b/o", operatingSystem := "os" }

theorem importingPlan_runs (name : String) (h : name = "n" ∨ name = "m") :
    ∃ r s', (step importingPlan).Runs (forgottenStatus name)
      ([⟨.findImage name, .answer none⟩] ++ [⟨.createImage importedPrototype, .aborted⟩]) r s' := by
  rcases h with rfl | rfl
  · exact ⟨_, _, .ask (.ask (.done _))⟩
  · exact ⟨_, _, .ask (.ask (.done _))⟩

/-- The image goes by the name that is remembered: it is created once that is not found. -/
theorem step_creates_unfound_forgotten :
    (∃ r s', (step importingPlan).Runs (forgottenStatus "n")
      ([⟨.findImage "n", .answer none⟩] ++ [⟨.createImage importedPrototype, .aborted⟩]) r s') ∧
    ⟨.findImage importedPrototype.name, .answer none⟩ ∈
      ([⟨.findImage "n", .answer none⟩] : Trace) := by
  obtain ⟨r, s', hrun⟩ := importingPlan_runs "n" (.inl rfl)
  obtain ⟨-, -, -, hown⟩ := step_creates_unfound hrun
  refine ⟨⟨r, s', hrun⟩, hown.2 ⟨by decide, fun entry hentry => ?_⟩⟩
  cases hentry
  exact .inr rfl

/-- With another name remembered, an image `n` is created that was never looked for. -/
theorem renamed_is_created_unsought :
    (∃ r s', (step importingPlan).Runs (forgottenStatus "m")
      ([⟨.findImage "m", .answer none⟩] ++ [⟨.createImage importedPrototype, .aborted⟩]) r s') ∧
    importedPrototype.name = "n" ∧
    ∀ found, ⟨.findImage "n", found⟩ ∉ ([⟨.findImage "m", .answer none⟩] : Trace) := by
  refine ⟨importingPlan_runs "m" (.inr rfl), rfl, fun found hmem => ?_⟩
  simp at hmem

end Pass.Image

end VpcOperator
