import ServiceWiring.Proofs.Text.Pieces
import ServiceWiring.Text.SnakeCase

/-! Where the characters of a text in snake case come from: each is an underscore or belongs to the
lower case of a letter or digit of the text. No letter and no digit is lost. -/
namespace ServiceWiring.Text

namespace SnakeCase

theorem mem_of_mem_wordsFrom {mode : Mode} {word cs w : List Char} {d : Char}
    (hw : w ∈ wordsFrom mode word cs) (hd : d ∈ w) : d ∈ word ∨ d ∈ cs := by
  fun_induction wordsFrom mode word cs with
  | case1 => simp at hw
  | case2 mode word c => simp_all
  | case3 mode word c next rest h ih => grind
  | case4 mode word c next rest _ h ih => grind
  | case5 mode word c next rest _ _ ih => grind

/-- The runs of a text are made of its letters and digits. -/
theorem mem_of_mem_runs {cs run : List Char} {d : Char} (hr : run ∈ runs cs) (hd : d ∈ run) :
    d ∈ cs ∧ isAlphanumeric d = true := by
  fun_induction runs cs generalizing run with
  | case1 => simp at hr
  | case2 c hc => simp_all
  | case3 c hc next rest _ _ ih => simp_all
  | case4 c hc next rest _ first others h ih =>
    rw [h] at hr ih
    rcases List.mem_cons.mp hr with rfl | hr
    · rcases List.mem_cons.mp hd with rfl | hd
      · exact ⟨List.mem_cons_self, hc⟩
      · exact (ih List.mem_cons_self hd).imp_left (List.mem_cons_of_mem c)
    · exact (ih (List.mem_cons_of_mem first hr) hd).imp_left (List.mem_cons_of_mem c)
  | case5 c hc next rest _ ih =>
    rcases List.mem_cons.mp hr with rfl | hr
    · simp_all
    · exact (ih hr hd).imp_left (List.mem_cons_of_mem c)
  | case6 c rest _ ih => exact (ih hr hd).imp_left (List.mem_cons_of_mem c)

theorem mem_of_mem_words {cs word : List Char} {d : Char} (hw : word ∈ words cs) (hd : d ∈ word) :
    d ∈ cs ∧ isAlphanumeric d = true := by
  obtain ⟨run, hr, hw⟩ := List.mem_flatMap.mp hw
  exact mem_of_mem_runs hr ((mem_of_mem_wordsFrom hw hd).resolve_left List.not_mem_nil)

theorem mem_of_mem_lowerWord {word : List Char} {d : Char} (hd : d ∈ lowerWord word) :
    d = 'ς' ∨ ∃ c ∈ word, d ∈ lowerChar c := by
  fun_induction lowerWord word with
  | case1 => simp at hd
  | case2 => exact .inl (List.mem_singleton.mp hd)
  | case3 c _ => exact .inr ⟨c, List.mem_cons_self, hd⟩
  | case4 c cs _ ih =>
    rcases List.mem_append.mp hd with hd | hd
    · exact .inr ⟨c, List.mem_cons_self, hd⟩
    · rcases ih hd with hd | ⟨c', hc', hd⟩
      · exact .inl hd
      · exact .inr ⟨c', List.mem_cons_of_mem c hc', hd⟩

theorem flatten_wordsFrom {mode : Mode} {word cs : List Char} (h : cs ≠ []) :
    (wordsFrom mode word cs).flatten = word.reverse ++ cs := by
  fun_induction wordsFrom mode word cs with
  | case1 => exact absurd rfl h
  | case2 mode word c => simp
  | case3 mode word c next rest _ ih => simp [ih]
  | case4 mode word c next rest _ _ ih => simp [ih]
  | case5 mode word c next rest _ _ ih => simp [ih]

/-- Only a word that has begun ends. -/
theorem nil_not_mem_wordsFrom {mode : Mode} {word cs : List Char}
    (h : mode = .upper → word ≠ []) : [] ∉ wordsFrom mode word cs := by
  fun_induction wordsFrom mode word cs with
  | case1 => exact List.not_mem_nil
  | case2 mode word c => simp
  | case3 mode word c next rest _ ih => simpa using ih (by simp)
  | case4 mode word c next rest _ hupper ih => simpa [h hupper.1] using ih (by simp)
  | case5 mode word c next rest _ _ ih => exact ih fun _ => List.cons_ne_nil c word

/-- Cutting a text into runs keeps its letters and digits. -/
theorem flatten_runs (cs : List Char) : (runs cs).flatten = cs.filter isAlphanumeric := by
  fun_induction runs cs with
  | case1 => rfl
  | case2 c hc => simp [hc]
  | case3 c hc next rest hnext h ih => simp_all
  | case4 c hc next rest hnext first others h ih =>
    rw [h, List.flatten_cons] at ih
    simp only [h, List.flatten_cons, List.cons_append, ih, List.filter_cons_of_pos hc]
  | case5 c hc next rest hnext ih =>
    rw [List.flatten_cons, ih, List.filter_cons_of_pos hc, List.singleton_append]
  | case6 c rest hc ih => rw [ih, List.filter_cons_of_neg (by simpa using hc)]

theorem nil_not_mem_runs (cs : List Char) : [] ∉ runs cs := by
  fun_induction runs cs with
  | case1 => exact List.not_mem_nil
  | case2 c hc => simp
  | case3 c hc next rest hnext h ih => simp [h]
  | case4 c hc next rest hnext first others h ih => simp_all
  | case5 c hc next rest hnext ih => simpa using ih
  | case6 c rest hc ih => exact ih

/-- The words of a text have all of its letters and digits, in order, and nothing else. -/
theorem flatten_words (cs : List Char) : (words cs).flatten = cs.filter isAlphanumeric := by
  have hrun : ∀ run ∈ runs cs, (List.flatten ∘ wordsFrom .start []) run = run := by
    intro run hr
    have hne : run ≠ [] := fun e => nil_not_mem_runs cs (e ▸ hr)
    rw [Function.comp_apply, flatten_wordsFrom hne, List.reverse_nil, List.nil_append]
  rw [← flatten_runs, words, List.flatMap_def, List.flatten_flatten, List.map_map,
    List.map_congr_left hrun, List.map_id']

theorem nil_not_mem_words (cs : List Char) : [] ∉ words cs := by
  intro h
  obtain ⟨run, -, h⟩ := List.mem_flatMap.mp h
  exact nil_not_mem_wordsFrom (by simp) h

end SnakeCase

end ServiceWiring.Text
