import Hashmark.Proofs.Cache.Fetch

/-!
# Fetches through caches that can be used

Where no file error keeps the cache from being used, a fetch does one of three things
(`fetch_cases`): it gives what a pass over the source gives, and changes no file if that is a
failure; or it fails because the encoding does not have all characters of what the pass gives, and
leaves an empty temporary file; or it reads an artifact that is there, and changes no file at all.
The constants of every host have a text, so that a configuration without constants of its own has a
fingerprint (`fingerprint?_isSome_of_host`).
-/

namespace Hashmark

/-- Values have texts if each of them has one. -/
theorem Value.shownItems?_isSome {vs : List Value} (h : ∀ v ∈ vs, v.shown?.isSome) :
    (Value.shownItems? vs).isSome := by
  induction vs with
  | nil => rfl
  | cons v vs ih =>
    obtain ⟨s, hs⟩ := Option.isSome_iff_exists.1 (h v List.mem_cons_self)
    obtain ⟨ss, hss⟩ := Option.isSome_iff_exists.1 (ih fun w hw => h w (.tail _ hw))
    rw [shownItems?, hs, hss]
    rfl

/-- Constants have a text if each of their values has one. -/
theorem Constants.shown?_isSome {constants : Constants}
    (h : ∀ entry ∈ constants.entries, entry.2.shown?.isSome) : constants.shown?.isSome := by
  unfold shown?
  rw [Option.isSome_map, Value.shown?, Option.isSome_map]
  apply Value.shownItems?_isSome
  intro v hv
  obtain ⟨entry, hentry, rfl⟩ := List.mem_map.1 hv
  have hshown : (Value.shownItems? [.text entry.1, entry.2]).isSome := by
    apply Value.shownItems?_isSome
    intro w hw
    obtain rfl | hw := List.mem_cons.1 hw
    · rfl
    · rw [List.mem_singleton.1 hw]
      exact h entry ((List.mergeSort_perm _ _).subset hentry)
  rw [Value.shown?, Option.isSome_map]
  exact hshown

/-- Integers of 32 bits have a text. -/
theorem Value.shown?_isSome_of_lt {n : Nat} (h : n < 2 ^ 32) : (Value.int n).shown?.isSome := by
  have hmost : 10 ≤ Number.maxDigits := by decide
  generalize hdigits : Number.maxDigits = digits at hmost
  have hless : n < Nat.pow 10 digits := calc
    n < 2 ^ 32 := h
    _ < 10 ^ 10 := by norm_num
    _ ≤ 10 ^ digits := Nat.pow_le_pow_right (by norm_num) hmost
  rw [Value.shown?, Number.intText?, Int.natAbs_natCast, hdigits, if_pos hless]
  rfl

/-- The constants of a host have a text. -/
theorem Host.constants_shown?_isSome (host : Host) : host.constants.shown?.isSome := by
  apply Constants.shown?_isSome
  have hhex := host.versionHex.toNat_lt
  have hmajor := host.major.toNat_lt
  have hminor := host.minor.toNat_lt
  simp only [constants, List.forall_mem_cons, List.not_mem_nil, false_implies, implies_true,
    and_true]
  exact ⟨Value.shown?_isSome_of_lt hhex, Value.shown?_isSome_of_lt (by omega),
    Value.shown?_isSome_of_lt (by omega), rfl, rfl⟩

/-- A configuration without constants of its own has a fingerprint. -/
theorem Config.fingerprint?_isSome_of_host {config : Config} (h : config.constants = none) :
    config.fingerprint?.isSome := by
  unfold fingerprint? ambient
  rw [h, Option.isSome_map, Option.getD_none]
  exact config.host.constants_shown?_isSome

namespace Cache

section Usable

variable {cache : Cache} {files : FileTree} {source : String}

/-- A fetch through a cache that can be used gives what a pass gives, and changes no file if that is
a failure; or it fails because what the pass gives cannot be written in the encoding, and leaves an
empty temporary file; or it reads an artifact that is there, and changes no file. -/
theorem fetch_cases (htree : files.IsTree) (hnamed : cache.config.fingerprint?.isSome)
    (husable : ∀ e, ¬Unusable cache files (.ofText source) (.file e)) :
    let pass := cache.config.processFile files (.ofText source)
    let fetched := cache.fetch files (.ofText source)
    (fetched.result = pass.result ∧ ∀ e, pass.result = .error e → fetched.files = files) ∨
    (∃ artifact text codec, cache.artifact? files.here (.ofText source) = some artifact ∧
      pass.result = .ok text ∧ cache.config.codec? = some codec ∧ codec.encode text = none ∧
      (prepareDirectory files cache.directory).1.write
        (artifact.withName (artifact.name ++ temporarySuffix)) [] = .ok fetched.files ∧
      fetched.result = .error .unencodable) ∨
    ∃ artifact node, cache.artifact? files.here (.ofText source) = some artifact ∧
      files.status artifact = .ok node ∧ fetched.files = files ∧
      fetched.result = files.readText artifact cache.config := by
  intro pass fetched
  simp only [pass, fetched]
  clear pass fetched
  have hfetches := fetch_fetches cache files (.ofText source)
  generalize cache.fetch files (.ofText source) = fetched at hfetches ⊢
  cases hfetches with
  | missing hpass => exact .inl ⟨hpass.symm, fun _ _ => rfl⟩
  | unnamed hunnamed =>
    rw [hunnamed] at hnamed
    cases hnamed
  | unreachable hname herror => exact absurd (.unreachable hname herror) (husable _)
  | @fresh artifact hfinds =>
    -- Something fresh is there, which is read whether or not it is a file.
    obtain ⟨bytes, made, -, -, hmade, -, -⟩ | hdirectory := isFresh_eq_true hfinds.freshness
    · exact .inr (.inr ⟨artifact, _, hfinds.name, hmade, rfl, rfl⟩)
    · exact .inr (.inr
        ⟨artifact, _, hfinds.name, FileTree.status?_eq_some.1 hdirectory, rfl, rfl⟩)
  | stale hfinds =>
    obtain ⟨base, rfl, hbuilds⟩ := hfinds.exists_builds htree
    generalize cache.build files (.ofText source) _ = built at hbuilds ⊢
    obtain ⟨after, warnings, result⟩ := built
    -- Only an unusable cache keeps a text from being stored that can be written.
    cases hbuilds with
    | fails hpass => exact .inl ⟨hpass.symm, fun _ _ => rfl⟩
    | unprepared hprepare => exact absurd (.unprepared hprepare) (husable _)
    | @unwritten bytes e hwrite =>
      refine absurd (.unwritten bytes hfinds.name ?_) (husable e)
      rw [Path.withName_entry, Path.name_entry]
      exact hwrite
    | unencodable hpass hcodec hencode hwrite =>
      refine .inr (.inl ⟨_, _, _, hfinds.name, hpass, hcodec, hencode, ?_, rfl⟩)
      rw [Path.withName_entry, Path.name_entry]
      exact hwrite
    | stored hpass =>
      refine .inl ⟨hpass.symm, fun e he => ?_⟩
      rw [hpass] at he
      cases he

end Usable

end Cache

end Hashmark
