import MockApi.Generation.Format
import MockApi.Generation.Vocabulary.FirstNames

/-!
# Sample texts

Mail addresses, hosts, links and phone numbers put together from lists of words.
-/

namespace MockApi.Generation

variable {σ : Type} [Source σ]

def latinWords : List String := wordsOfRows [
  "alias consequatur aut perferendis sit voluptatem accusantium doloremque aperiam eaque ipsa",
  "quae ab illo inventore veritatis et quasi architecto beatae vitae dicta sunt explicabo",
  "aspernatur aut odit aut fugit sed quia consequuntur magni dolores eos qui ratione voluptatem",
  "sequi nesciunt neque dolorem ipsum quia dolor sit amet consectetur adipisci velit sed quia non",
  "numquam eius modi tempora incidunt ut labore et dolore magnam aliquam quaerat voluptatem ut",
  "enim ad minima veniam quis nostrum exercitationem ullam corporis nemo enim ipsam voluptatem",
  "quia voluptas sit suscipit laboriosam nisi ut aliquid ex ea commodi consequatur quis autem vel",
  "eum iure reprehenderit qui in ea voluptate velit esse quam nihil molestiae et iusto odio",
  "dignissimos ducimus qui blanditiis praesentium laudantium totam rem voluptatum deleniti atque",
  "corrupti quos dolores et quas molestias excepturi sint occaecati cupiditate non provident sed",
  "ut perspiciatis unde omnis iste natus error similique sunt in culpa qui officia deserunt",
  "mollitia animi id est laborum et dolorum fuga et harum quidem rerum facilis est et expedita",
  "distinctio nam libero tempore cum soluta nobis est eligendi optio cumque nihil impedit quo",
  "porro quisquam est qui minus id quod maxime placeat facere possimus omnis voluptas assumenda",
  "est omnis dolor repellendus temporibus autem quibusdam et aut consequatur vel illum qui",
  "dolorem eum fugiat quo voluptas nulla pariatur at vero eos et accusamus officiis debitis aut",
  "rerum necessitatibus saepe eveniet ut et voluptates repudiandae sint et molestiae non",
  "recusandae itaque earum rerum hic tenetur a sapiente delectus ut aut reiciendis voluptatibus",
  "maiores doloribus asperiores repellat"]

def domainSuffixes : List String := ["com", "biz", "info", "name", "net", "org"]

def mailSuffixes : List String := ["com", "net", "org"]

/-- Forms of phone numbers, the frequent ones twice; each mark stands for a digit. -/
def phoneForms : List String := [
  "###-###-####", "(###) ###-####", "1-###-###-####", "###.###.####", "###-###-####",
  "(###) ###-####", "1-###-###-####", "###.###.####", "###-###-#### x###",
  "(###) ###-#### x###", "1-###-###-#### x###", "###.###.#### x###", "###-###-#### x####",
  "(###) ###-#### x####", "1-###-###-#### x####", "###.###.#### x####", "###-###-#### x#####",
  "(###) ###-#### x#####", "1-###-###-#### x#####", "###.###.#### x#####"]

def pick (words : List String) : Draw σ String := do
  return words.getD (← Draw.below32 words.length) ""

def fillDigits : List Char → Draw σ (List Char)
  | [] => pure []
  | '#' :: rest => do
    let digit ← Draw.below32 10
    return Nat.digitChar digit :: (← fillDigits rest)
  | c :: rest => do return c :: (← fillDigits rest)

def sampleHost : Draw σ String := do
  let word ← pick latinWords
  return word ++ "." ++ (← pick domainSuffixes)

def Samples.ofVocabulary : Samples σ where
  mail := do
    let name ← pick firstNames
    return Text.lowerAscii name ++ "@example." ++ (← pick mailSuffixes)
  host := sampleHost
  link := do
    let host ← sampleHost
    return "https://" ++ host ++ "/" ++ (← pick latinWords)
  phone := do return String.ofList (← fillDigits (← pick phoneForms).toList)

end MockApi.Generation
