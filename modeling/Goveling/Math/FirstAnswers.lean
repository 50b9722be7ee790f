/-
# Answers that are kept once they come

A question has a key. What a question is answered is kept under its key and never asked for again;
a question that gets no answer is asked again the next time. So whoever asks gets the first answer
that anyone with the same key got, and what else would have been answered is never heard.
-/

import Goveling.Math.OrderedMap

namespace Goveling.Math

universe u v

/-- A question with its key, and what it is answered if it is asked now. -/
structure Question (K : Type u) (V : Type v) where
  key : K
  reply : Option V

namespace Question

variable {K : Type u} {V : Type v} [DecidableEq K]

/-- A question is answered from the table, or asked, and its answer is kept. -/
def answer (table : OrderedMap K V) (question : Question K V) : Option V × OrderedMap K V :=
  match table.get? question.key with
  | some kept => (some kept, table)
  | none =>
      match question.reply with
      | some value => (some value, table.set question.key value)
      | none => (none, table)

/-- The answers to questions one after the other, and the table after them. -/
def answers (table : OrderedMap K V) :
    List (Question K V) → List (Option V) × OrderedMap K V
  | [] => ([], table)
  | question :: rest =>
      let (first, later) := question.answer table
      let (others, last) := answers later rest
      (first :: others, last)

/-- The first answer that comes to a question with the key. -/
def first (asked : List (Question K V)) (key : K) : Option V :=
  asked.findSome? fun question => if question.key = key then question.reply else none

/-- What questions are answered after others: for each one the first answer for its key so far. -/
def firstAnswers (asked : List (Question K V)) : List (Question K V) → List (Option V)
  | [] => []
  | question :: rest =>
      first (asked ++ [question]) question.key :: firstAnswers (asked ++ [question]) rest

/-- The table holds the first answers, and nothing else. -/
def Holds (table : OrderedMap K V) (asked : List (Question K V)) : Prop :=
  ∀ key, table.get? key = first asked key

variable {table : OrderedMap K V} {asked questions : List (Question K V)}
  {question : Question K V}

theorem holds_empty : Holds (.empty : OrderedMap K V) [] := fun _ => rfl

theorem first_append (asked later : List (Question K V)) (key : K) :
    first (asked ++ later) key = (first asked key).or (first later key) :=
  List.findSome?_append

theorem first_singleton_self (question : Question K V) :
    first [question] question.key = question.reply := by
  unfold first
  rw [List.findSome?_singleton, if_pos rfl]

theorem first_singleton_of_ne {key : K} (hkey : question.key ≠ key) :
    first [question] key = none := by
  unfold first
  rw [List.findSome?_singleton, if_neg hkey]

/-- A question gets the first answer for its key, and the table still holds the first answers. -/
theorem Holds.answer (hholds : Holds table asked) (question : Question K V) :
    (question.answer table).1 = first (asked ++ [question]) question.key ∧
      Holds (question.answer table).2 (asked ++ [question]) := by
  unfold Question.answer
  rw [first_append, first_singleton_self, ← hholds question.key]
  cases hkept : table.get? question.key with
  | some kept =>
      refine ⟨rfl, fun key => ?_⟩
      rw [first_append, ← hholds key]
      by_cases hkey : question.key = key
      · rw [← hkey, hkept, Option.some_or]
      · rw [first_singleton_of_ne hkey, Option.or_none]
  | none =>
      cases hreply : question.reply with
      | some value =>
          refine ⟨rfl, fun key => ?_⟩
          rw [first_append, ← hholds key, OrderedMap.get?_set]
          by_cases hkey : question.key = key
          · rw [← hkey, if_pos rfl, hkept, Option.none_or, first_singleton_self, hreply]
          · rw [if_neg (Ne.symm hkey), first_singleton_of_ne hkey, Option.or_none]
      | none =>
          refine ⟨rfl, fun key => ?_⟩
          rw [first_append, ← hholds key]
          by_cases hkey : question.key = key
          · rw [← hkey, first_singleton_self, hreply, Option.or_none]
          · rw [first_singleton_of_ne hkey, Option.or_none]

/-- Questions one after the other get the first answers for their keys. -/
theorem Holds.answers (hholds : Holds table asked) (questions : List (Question K V)) :
    (answers table questions).1 = firstAnswers asked questions ∧
      Holds (answers table questions).2 (asked ++ questions) := by
  induction questions generalizing table asked with
  | nil =>
      rw [List.append_nil]
      exact ⟨rfl, hholds⟩
  | cons question rest ih =>
      obtain ⟨hfirst, hlater⟩ := hholds.answer question
      obtain ⟨hothers, hlast⟩ := ih hlater
      rw [List.append_assoc, List.singleton_append] at hlast
      exact ⟨congrArg₂ List.cons hfirst hothers, hlast⟩

/-- Questions with one key are answered alike. -/
def Agree (questions : List (Question K V)) : Prop :=
  ∀ question ∈ questions, ∀ other ∈ questions, question.key = other.key →
    question.reply = other.reply

/-- While questions with one key are answered alike, the first answer is the answer. -/
theorem first_of_agree (hagree : Agree asked) (hquestion : question ∈ asked) :
    first asked question.key = question.reply := by
  unfold first
  cases hfound : asked.findSome? fun other =>
      if other.key = question.key then other.reply else none with
  | none =>
      have hnone := List.findSome?_eq_none_iff.mp hfound question hquestion
      rw [if_pos rfl] at hnone
      exact hnone.symm
  | some value =>
      obtain ⟨other, hother, hvalue⟩ := List.exists_of_findSome?_eq_some hfound
      by_cases hkey : other.key = question.key
      · rw [if_pos hkey] at hvalue
        rw [← hvalue]
        exact hagree other hother question hquestion hkey
      · rw [if_neg hkey] at hvalue
        cases hvalue

/-- While questions with one key are answered alike, nothing that is kept is noticed. -/
theorem firstAnswers_of_agree (hagree : Agree (asked ++ questions)) :
    firstAnswers asked questions = questions.map Question.reply := by
  induction questions generalizing asked with
  | nil => rfl
  | cons question rest ih =>
      have hall : Agree ((asked ++ [question]) ++ rest) := by
        rwa [List.append_assoc, List.singleton_append]
      have hsofar : Agree (asked ++ [question]) := fun first hfirst other hother =>
        hall first (List.mem_append_left rest hfirst) other (List.mem_append_left rest hother)
      have hmem : question ∈ asked ++ [question] :=
        List.mem_append_right asked List.mem_cons_self
      exact congrArg₂ List.cons (first_of_agree hsofar hmem) (ih hall)

/-- An answer comes from one of the questions with its key. -/
theorem exists_of_first {key : K} {value : V} (hfirst : first asked key = some value) :
    ∃ question ∈ asked, question.key = key ∧ question.reply = some value := by
  obtain ⟨question, hquestion, hvalue⟩ := List.exists_of_findSome?_eq_some hfirst
  by_cases hkey : question.key = key
  · rw [if_pos hkey] at hvalue
    exact ⟨question, hquestion, hkey, hvalue⟩
  · rw [if_neg hkey] at hvalue
    cases hvalue

/-- An answer is the answer to a question with the same key, which was asked before or is asked
as well. -/
theorem exists_of_mem_firstAnswers {value : V}
    (hvalue : some value ∈ firstAnswers asked questions) :
    ∃ question ∈ questions, ∃ source ∈ asked ++ questions,
      source.key = question.key ∧ source.reply = some value := by
  induction questions generalizing asked with
  | nil => cases hvalue
  | cons question rest ih =>
      rw [← List.singleton_append, ← List.append_assoc]
      rcases List.mem_cons.mp hvalue with hfirst | hlater
      · obtain ⟨source, hsource, hkey, hreply⟩ := exists_of_first hfirst.symm
        exact ⟨question, List.mem_cons_self, source, List.mem_append_left rest hsource, hkey,
          hreply⟩
      · obtain ⟨other, hother, hsource⟩ := ih hlater
        exact ⟨other, List.mem_cons_of_mem question hother, hsource⟩

end Question

end Goveling.Math
