import MapExport.Proofs.Job.Order
import MapExport.Proofs.Slug
import MapExport.Proofs.Store.Sessions

/-!
# Slugs of requests

A request is looked up by its slugs in normal form and by nothing else. So two requests that differ in how their slugs
are written, and not in their normal forms, come to the same job: the same formats and providers are found for them,
in the same order, and the collaborators are left in the same state. Only what is said of formats that are all unknown
tells the two apart, since there the slugs are named as they were sent.
-/

set_option autoImplicit false

namespace MapExport

open Workflow (play_bind)

/-- **In normal form,** each once, in the order of the first of each. -/
structure Slug.EachOnce (slugs result : List String) : Prop where
  nodup : result.Nodup
  mem_iff : ∀ x, x ∈ result ↔ x ≠ "" ∧ ∃ slug ∈ slugs, Text.lower (Text.trim slug) = x
  inOrder : result.Pairwise fun x y =>
    (slugs.map Slug.normal).idxOf x < (slugs.map Slug.normal).idxOf y

theorem Slug.eachOnce_normalize (slugs : List String) : EachOnce slugs (normalize slugs) where
  nodup := nodup_normalize slugs
  mem_iff _ := mem_normalize_iff
  inOrder := pairwise_normalize slugs

variable {σ α β : Type} {answer : σ → (c : JobCall) → c.Reply × σ}

namespace JobFlow

/-- **Alike:** from every state, both end well with the same, or neither does, and they lead to the same state. -/
structure Alike (answer : σ → (c : JobCall) → c.Reply × σ) (x y : JobFlow α) : Prop where
  ok_iff : ∀ s a, (x.run.play answer s).result = .ok a ↔ (y.run.play answer s).result = .ok a
  state : ∀ s, (x.run.play answer s).state = (y.run.play answer s).state

theorem Alike.refl (x : JobFlow α) : Alike answer x x := ⟨fun _ _ => Iff.rfl, fun _ => rfl⟩

theorem Alike.symm {x y : JobFlow α} (h : Alike answer x y) : Alike answer y x :=
  ⟨fun s a => (h.ok_iff s a).symm, fun s => (h.state s).symm⟩

theorem Alike.trans {x y z : JobFlow α} (h : Alike answer x y) (h' : Alike answer y z) : Alike answer x z :=
  ⟨fun s a => (h.ok_iff s a).trans (h'.ok_iff s a), fun s => (h.state s).trans (h'.state s)⟩

/-- What is alike stays so with the same afterwards. -/
theorem Alike.bind {x y : JobFlow α} {k l : α → JobFlow β} (hfirst : Alike answer x y)
    (hsecond : ∀ a, Alike answer (k a) (l a)) : Alike answer (x >>= k) (y >>= l) := by
  have hboth (s : σ) :
      (∀ b, ((x >>= k).run.play answer s).result = .ok b ↔ ((y >>= l).run.play answer s).result = .ok b) ∧
        ((x >>= k).run.play answer s).state = ((y >>= l).run.play answer s).state := by
    have hok := hfirst.ok_iff s
    have hstate := hfirst.state s
    rw [ExceptT.run_bind, ExceptT.run_bind, play_bind, play_bind]
    dsimp only
    rw [← hstate]
    cases hx : (x.run.play answer s).result with
    | ok a =>
      rw [(hok a).mp hx]
      exact ⟨(hsecond a).ok_iff _, (hsecond a).state _⟩
    | error e =>
      cases hy : (y.run.play answer s).result with
      | ok a => cases hx.symm.trans ((hok a).mpr hy)
      | error e' => exact ⟨fun _ => ⟨nofun, nofun⟩, rfl⟩
  exact ⟨fun s => (hboth s).1, fun s => (hboth s).2⟩

/-- Two failures are alike, whatever is said of them. -/
theorem alike_throw (e e' : Failure) : Alike answer (throw e : JobFlow α) (throw e') :=
  ⟨fun _ _ => ⟨nofun, nofun⟩, fun _ => rfl⟩

end JobFlow

open JobFlow

/-- Formats are looked up in normal form. -/
theorem Job.alike_resolveFormats {requested requested' : List String}
    (h : Slug.normalize requested' = Slug.normalize requested) :
    Alike answer (resolveFormats requested) (resolveFormats requested') := by
  rw [resolveFormats, resolveFormats, h]
  refine (Alike.refl _).bind fun formats => ?_
  cases formats with
  | nil => exact (alike_throw _ _).bind fun _ => .refl _
  | cons f fs => exact .refl _

/-- Not to be asked for providers is the same as to be asked for none and to find none. -/
theorem Job.alike_ask_providers (hnone : ∀ s, answer s (.providersBySlugs []) = (.ok [], s)) (requested : List String) :
    Alike answer (resolveProviders requested) (JobFlow.ask (.providersBySlugs (Slug.normalize requested))) := by
  cases requested with
  | nil =>
    constructor
    · intro s a
      show Except.ok [] = Except.ok a ↔ (answer s (.providersBySlugs [])).1 = Except.ok a
      rw [hnone s]
      exact Iff.rfl
    · intro s
      show s = (answer s (.providersBySlugs [])).2
      rw [hnone s]
  | cons slug slugs => exact .refl _

section

variable {requested requested' : List String}
  (hasked : (requested = [] ↔ requested' = []) ∨ ∀ s, answer s (.providersBySlugs []) = (.ok [], s))

include hasked

/-- Providers are looked up in normal form. -/
theorem Job.alike_resolveProviders (h : Slug.normalize requested' = Slug.normalize requested) :
    Alike answer (resolveProviders requested) (resolveProviders requested') := by
  rcases hasked with hempty | hnone
  · have hcalls : resolveProviders requested' = resolveProviders requested := by
      rw [resolveProviders, resolveProviders, h]
      simp only [List.isEmpty_iff, hempty]
    rw [hcalls]
    exact .refl _
  · have hfirst := alike_ask_providers hnone requested
    have hsecond := alike_ask_providers hnone requested'
    rw [h] at hsecond
    exact hfirst.trans hsecond.symm

end

section

variable {r : JobRequest} {formats providers : List String}
  (hasked : (r.providers = [] ↔ providers = []) ∨ ∀ s, answer s (.providersBySlugs []) = (.ok [], s))
  (hformats : Slug.normalize formats = Slug.normalize r.formats)
  (hproviders : Slug.normalize providers = Slug.normalize r.providers)

include hasked hformats hproviders

/-- The same is found for slugs of the same normal forms. -/
theorem Job.alike_gather (project : Position → Float × Float) :
    Alike answer (gather project r) (gather project { r with formats, providers }) := by
  refine (Alike.refl _).bind fun _ => ?_
  refine (alike_resolveFormats hformats).bind fun _ => ?_
  exact (alike_resolveProviders hasked hproviders).bind fun _ => .refl _

/-- The same job is made of slugs of the same normal forms. -/
theorem Job.alike_create (rules : JobRules) (stamp : Stamp) (owner : Uid) :
    Alike answer (create rules stamp owner r) (create rules stamp owner { r with formats, providers }) := by
  refine (Alike.refl _).bind fun _ => ?_
  refine (alike_resolveFormats hformats).bind fun _ => ?_
  exact (alike_resolveProviders hasked hproviders).bind fun _ => .refl _

end

/-- **Requests come to the same:** the same is found for both, and the same job is created. -/
structure JobRequest.SameJob (answer : σ → (c : JobCall) → c.Reply × σ) (r r' : JobRequest) : Prop where
  found : ∀ project, Alike answer (Job.gather project r) (Job.gather project r')
  created : ∀ rules stamp owner, Alike answer (Job.create rules stamp owner r) (Job.create rules stamp owner r')

/-- **Slugs are looked up in normal form.** The slugs of a request are their normal forms other than the empty one, each
once, in the order in which they first come; more slugs only add at the end what is not there yet, and slugs in normal
form stay as they are. So where requests differ in their slugs and not in the normal forms of these, the same formats
and the same providers are found for both in a store, in the same order, and the same job is created. This is so whoever
the collaborators are; only if just one of the two asks for providers, by blanks alone, they have to find none for it. -/
theorem slugs_in_normal_form (answer : σ → (c : JobCall) → c.Reply × σ) :
    (∀ slugs, Slug.EachOnce slugs (Slug.normalize slugs)) ∧
    (∀ first second, Slug.normalize (first ++ second) =
      Slug.normalize first ++ (Slug.normalize second).filter (· ∉ Slug.normalize first)) ∧
    (∀ slugs, Slug.normalize (Slug.normalize slugs) = Slug.normalize slugs) ∧
    ∀ (r : JobRequest) (formats providers : List String), Slug.normalize formats = Slug.normalize r.formats →
      Slug.normalize providers = Slug.normalize r.providers →
        (∀ preset dispatch, r.SameJob (Session.collaborate preset dispatch) { r with formats, providers }) ∧
        ((r.providers = [] ↔ providers = []) ∨ (∀ s, answer s (.providersBySlugs []) = (.ok [], s)) →
          r.SameJob answer { r with formats, providers }) := by
  refine ⟨Slug.eachOnce_normalize, Slug.normalize_append, Slug.normalize_normalize, ?_⟩
  intro r formats providers hformats hproviders
  constructor
  · -- A store finds no provider for no slug.
    intro preset dispatch
    have hnone (s : Session) : s.collaborate preset dispatch (.providersBySlugs []) = (.ok [], s) := rfl
    exact ⟨Job.alike_gather (.inr hnone) hformats hproviders, Job.alike_create (.inr hnone) hformats hproviders⟩
  · intro hasked
    exact ⟨Job.alike_gather hasked hformats hproviders, Job.alike_create hasked hformats hproviders⟩

/-- A store finds no provider for blanks, and the same formats in other letters and with blanks around them. -/
theorem trial_slugs_in_normal_form :
    let collaborate := Session.collaborate (fun _ => .ok Preset.defaultTable) fun _ => .ok ()
    let request := { JobRequest.trial with providers := [] }
    let formats := [" Shp", "", "TIFF\t", "shp"]
    Slug.normalize formats = ["shp", "tiff"] ∧ request.SameJob collaborate { request with formats, providers := [" "] } := by
  intro collaborate request formats
  obtain ⟨-, -, -, hsame⟩ := slugs_in_normal_form collaborate
  have hformats : Slug.normalize formats = Slug.normalize request.formats := by decide +kernel
  have hproviders : Slug.normalize [" "] = Slug.normalize request.providers := by decide +kernel
  exact ⟨by decide +kernel, (hsame request formats [" "] hformats hproviders).1 _ _⟩

end MapExport
