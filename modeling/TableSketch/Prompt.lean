/-!
# The prompt for a coding assistant

The data definition in a code block, between a line that says what it is and a
request for types and a repository.
-/

namespace TableSketch.Prompt

/-- The prompt for a data definition. -/
def ofScript (script : String) : String :=
  "I am building a new application using SQLite.\nHere is my database schema:\n\n```sql\n" ++
    script ++
    "\n```\n\nPlease generate the TypeScript types and a basic CRUD repository for this schema."

end TableSketch.Prompt
