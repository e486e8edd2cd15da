import Mathlib.Data.List.Nodup
import TrafficLens.Analysis.Scanner
import TrafficLens.Proofs.Dict
import TrafficLens.Proofs.Pattern.Successive

/-!
# What a scanner made of patterns finds

A scanner goes through the matches of each pattern and stops as soon as it has enough different
ones, and two patterns whose names become one class replace each other's findings. Neither loses a
class: a class is found if and only if the pattern of some name that becomes it matches a part of
the text (`mem_keys_scan`). The samples are the first different matches (`collect_eq`), and if no two
names become one class they are those of the pattern of the class (`scan_finds`).
-/

namespace TrafficLens

/-! ## Attempts that succeed -/

namespace Except

variable {ε α β : Type}

theorem bind_eq_ok {x : Except ε α} {f : α → Except ε β} {b : β} :
    x >>= f = .ok b ↔ ∃ a, x = .ok a ∧ f a = .ok b := by
  cases x with
  | error e => exact ⟨nofun, nofun⟩
  | ok a => simp [bind, Except.bind]

/-- When each member was read, what was read are the readings of the members. -/
theorem mem_of_mapM_eq_ok {f : α → Except ε β} {xs : List α} {ys : List β}
    (h : xs.mapM f = .ok ys) {y : β} : y ∈ ys ↔ ∃ x ∈ xs, f x = .ok y := by
  induction xs generalizing ys with
  | nil =>
    obtain rfl := Except.ok.inj h
    simp
  | cons x xs ih =>
    rw [List.mapM_cons] at h
    obtain ⟨first, hfirst, h⟩ := bind_eq_ok.1 h
    obtain ⟨others, hothers, h⟩ := bind_eq_ok.1 h
    obtain rfl := Except.ok.inj h
    rw [List.exists_mem_cons_iff, ← ih hothers, List.mem_cons, hfirst, Except.ok.injEq, eq_comm]

end Except

/-! ## Different members -/

namespace Pattern

variable {α : Type} [DecidableEq α]

theorem distinct_eq_self {xs : List α} (h : xs.Nodup) : distinct xs = xs := by
  induction xs with
  | nil => rfl
  | cons x xs ih =>
    obtain ⟨hx, hxs⟩ := List.nodup_cons.1 h
    rw [distinct, ih hxs, List.filter_eq_self.2]
    intro y hy
    simpa using fun heq : y = x => hx (heq ▸ hy)

/-- The members of the second list that are not in the first come behind it. -/
theorem distinct_append (xs ys : List α) :
    distinct (xs ++ ys) = distinct xs ++ (distinct ys).filter (· ∉ xs) := by
  induction xs with
  | nil => simp [distinct]
  | cons x xs ih =>
    rw [List.cons_append, distinct, ih, distinct, List.filter_append, List.filter_filter,
      List.cons_append]
    simp

end Pattern

namespace PatternScanner

open Pattern

/-! ## The samples of one pattern -/

/-- **Samples are the first different matches.** -/
theorem collect_eq {samples : List String} (hnodup : samples.Nodup)
    (hroom : samples.length < maxSamples) (ms : List String) :
    collect samples ms = (distinct (samples ++ ms)).take maxSamples := by
  induction ms generalizing samples with
  | nil =>
    rw [collect, List.append_nil, distinct_eq_self hnodup, List.take_of_length_le (by omega)]
  | cons m rest ih =>
    rw [collect]
    by_cases hm : m ∈ samples
    · -- a match that is there already counts once
      have hskip : distinct (samples ++ m :: rest) = distinct (samples ++ rest) := by
        rw [distinct_append, distinct_append, distinct, List.filter_cons_of_neg (by simpa using hm),
          List.filter_filter]
        refine congrArg _ (List.filter_congr fun x _ => ?_)
        simpa using fun hx : x ∉ samples => fun heq : x = m => hx (heq ▸ hm)
      rw [if_pos (List.contains_iff_mem.2 hm), if_neg (by omega), ih hnodup hroom, hskip]
    · have hnew : ¬ samples.contains m = true := by simpa using hm
      have hnodup' : (samples ++ [m]).Nodup := by
        rw [List.nodup_append]
        refine ⟨hnodup, by simp, fun x hx y hy heq => hm ?_⟩
        rwa [← List.mem_singleton.1 hy, ← heq]
      rw [if_neg hnew, List.append_cons samples m rest]
      by_cases hfull : maxSamples ≤ (samples ++ [m]).length
      · rw [if_pos hfull, distinct_append, distinct_eq_self hnodup', List.take_append_of_le_length
          hfull, List.take_of_length_le (by rw [List.length_append, List.length_singleton]; omega)]
      · rw [if_neg hfull, ih hnodup' (by omega)]

theorem samplesOf_eq (node : Node) (text : String) :
    samplesOf node text = (distinct (node.matchesOf text)).take maxSamples := by
  rw [samplesOf, collect_eq List.nodup_nil (by decide), List.nil_append]

theorem samplesOf_ne_nil_iff (node : Node) (text : String) :
    samplesOf node text ≠ [] ↔ ∃ part, node.Finds none text.toList part := by
  rw [← matchesOf_ne_nil_iff, samplesOf_eq]
  cases node.matchesOf text with
  | nil => simp [distinct]
  | cons m rest => simp [distinct, maxSamples]

/-! ## The findings in a text -/

/-- What the patterns find in a text, one after the other. -/
def findings (s : PatternScanner) (text : String) : List (String × List String) :=
  (s.patterns.map fun p => (p.1, samplesOf p.2 text)).filter fun e => e.2 ≠ []

theorem mem_findings {s : PatternScanner} {text c : String} {samples : List String} :
    (c, samples) ∈ s.findings text ↔
      ∃ node, (c, node) ∈ s.patterns ∧ samples = samplesOf node text ∧ samples ≠ [] := by
  simp only [findings, List.mem_filter, List.mem_map, Prod.mk.injEq, Prod.exists, decide_eq_true_eq]
  constructor
  · rintro ⟨⟨_, node, hmem, rfl, rfl⟩, hne⟩
    exact ⟨node, hmem, rfl, hne⟩
  · rintro ⟨node, hmem, rfl, hne⟩
    exact ⟨⟨c, node, hmem, rfl, rfl⟩, hne⟩

/-- Of two findings with one class the later one is kept. -/
theorem scan_eq (s : PatternScanner) {text : String} (h : text ≠ "") :
    s.scan text = Dict.ofList (s.findings text) := by
  rw [scan, if_neg (by simpa using h), findings, Dict.ofList, List.foldl_filter, List.foldl_map]
  simp only [decide_eq_true_eq]
  congr
  funext found p
  split
  · next hnil => simp [hnil]
  · next hne => rw [if_pos hne]

theorem mem_keys_scan (s : PatternScanner) {text : String} (h : text ≠ "") {c : String} :
    c ∈ Dict.keys (s.scan text) ↔ ∃ node, (c, node) ∈ s.patterns ∧ samplesOf node text ≠ [] := by
  rw [scan_eq s h, Dict.mem_keys_ofList, Dict.keys, List.mem_map]
  simp only [Prod.exists, mem_findings]
  constructor
  · rintro ⟨_, samples, ⟨node, hmem, rfl, hne⟩, rfl⟩
    exact ⟨node, hmem, hne⟩
  · rintro ⟨node, hmem, hne⟩
    exact ⟨c, _, ⟨node, hmem, rfl, hne⟩, rfl⟩

/-! ## The settings -/

variable {read : String → Option Node} {settings : ScannerSettings} {s : PatternScanner}

theorem compile_eq_ok {entry : String × String} {p : String × Node} :
    compile read entry = .ok p ↔ entry.1.toUpper = p.1 ∧ read entry.2 = some p.2 := by
  obtain ⟨c, node⟩ := p
  rw [compile]
  cases read entry.2 <;> simp

/-- The patterns of a scanner are those of its settings. -/
theorem mem_patterns (h : ofSettingsBy read settings = .ok s) {p : String × Node} :
    p ∈ s.patterns ↔
      ∃ entry ∈ settings.patterns, entry.1.toUpper = p.1 ∧ read entry.2 = some p.2 := by
  obtain ⟨patterns, hpatterns, h⟩ := Except.bind_eq_ok.1 h
  obtain ⟨risks, -, h⟩ := Except.bind_eq_ok.1 h
  obtain rfl := Except.ok.inj h
  simp only [Except.mem_of_mapM_eq_ok hpatterns, compile_eq_ok]

/-- **A class is found if the pattern of some name that becomes it matches a part of the text.** If
each name becomes a class of its own, the samples of a class are the first three different ones of
the matches of its pattern, each behind the one before it. This holds of all settings that are
taken, whatever reads the patterns. -/
theorem scan_finds (hs : ofSettingsBy read settings = .ok s) {text : String} (htext : text ≠ "") :
    (∀ c, c ∈ Dict.keys (s.scan text) ↔
      ∃ entry ∈ settings.patterns, entry.1.toUpper = c ∧
        ∃ node, read entry.2 = some node ∧ ∃ part, node.Finds none text.toList part) ∧
    ((settings.patterns.map fun entry => entry.1.toUpper).Nodup →
      ∀ entry ∈ settings.patterns, ∀ samples, (entry.1.toUpper, samples) ∈ s.scan text →
        ∃ node ms, read entry.2 = some node ∧
          node.Successive false none text.toList (ms.map String.toList) ∧
          samples = (distinct ms).take 3) := by
  constructor
  · intro c
    rw [mem_keys_scan s htext]
    simp only [mem_patterns hs, samplesOf_ne_nil_iff]
    constructor
    · rintro ⟨node, ⟨entry, hentry, rfl, hparse⟩, hfinds⟩
      exact ⟨entry, hentry, rfl, node, hparse, hfinds⟩
    · rintro ⟨entry, hentry, rfl, node, hparse, hfinds⟩
      exact ⟨node, ⟨entry, hentry, rfl, hparse⟩, hfinds⟩
  · intro hnodup entry hentry samples hmem
    rw [scan_eq s htext] at hmem
    obtain ⟨node, hnode, hsamples, -⟩ := mem_findings.1 (Dict.mem_of_mem_ofList hmem)
    obtain ⟨other, hother, hname, hparse⟩ := (mem_patterns hs).1 hnode
    obtain rfl : other = entry := List.inj_on_of_nodup_map hnodup hother hentry hname
    exact ⟨node, node.matchesOf text, hparse, successive_matchesOf node text,
      hsamples.trans (samplesOf_eq node text)⟩

/-- Marks and numbers: a mark may be empty. -/
def markSettings : ScannerSettings where
  patterns := [("mark", "x*"), ("number", "\\p\x7bNd\x7d+")]

/-- Any number of marks. -/
def marks : Node := .seq (.rep (.set (.range 120 120)) 0 none true) .empty

/-- A number. -/
def digits : Node := .seq (.rep (.set .digit) 1 none true) .empty

/-- The scanner for marks and numbers. -/
def markScanner : PatternScanner where
  patterns := [("MARK", marks), ("NUMBER", digits)]

/-- In a text without a digit only marks are found, the empty one among them. -/
theorem scan_finds_marks :
    ofSettingsBy parse? markSettings = .ok markScanner ∧ "axbxxcxxx" ≠ "" ∧
    (markSettings.patterns.map fun entry => entry.1.toUpper).Nodup ∧
    markScanner.scan "axbxxcxxx" = [("MARK", ["", "x", "xx"])] ∧
    (∃ entry ∈ markSettings.patterns, entry.1.toUpper = "MARK" ∧
      ∃ node, parse? entry.2 = some node ∧ ∃ part, node.Finds none "axbxxcxxx".toList part) ∧
    ∃ node ms, parse? "x*" = some node ∧
      node.Successive false none "axbxxcxxx".toList (ms.map String.toList) ∧
      ["", "x", "xx"] = (distinct ms).take 3 := by
  have hmark : "mark".toUpper = "MARK" := by decide +kernel
  have hnumber : "number".toUpper = "NUMBER" := by decide +kernel
  have hmarks : compile parse? ("mark", "x*") = .ok ("MARK", marks) :=
    compile_eq_ok.2 ⟨hmark, by decide +kernel⟩
  have hdigits : compile parse? ("number", "\\p\x7bNd\x7d+") = .ok ("NUMBER", digits) :=
    compile_eq_ok.2 ⟨hnumber, by decide +kernel⟩
  have hs : ofSettingsBy parse? markSettings = .ok markScanner := by
    simp only [ofSettingsBy, markSettings, List.mapM_cons, hmarks, hdigits]
    rfl
  have htext : "axbxxcxxx" ≠ "" := by decide
  have hnodup : (markSettings.patterns.map fun entry => entry.1.toUpper).Nodup := by
    simp [markSettings, hmark, hnumber]
  have hscan : markScanner.scan "axbxxcxxx" = [("MARK", ["", "x", "xx"])] := by decide +kernel
  have hfinds := scan_finds hs htext
  refine ⟨hs, htext, hnodup, hscan, (hfinds.1 "MARK").1 (by rw [hscan]; decide),
    hfinds.2 hnodup ("mark", "x*") (by decide) _ ?_⟩
  rw [hscan, hmark]
  exact List.mem_singleton_self _

end PatternScanner

end TrafficLens
