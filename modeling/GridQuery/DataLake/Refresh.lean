import GridQuery.Exchange
import GridQuery.DataLake.Feature
import GridQuery.DataLake.Snapshot
import GridQuery.DataLake.Window
import GridQuery.Settings
import GridQuery.Sql.Select

/-!
The snapshots of the data lake and the jobs that refresh them. A job asks at most one query and
replaces its own snapshot, or nothing.
-/

namespace GridQuery

open GridQuery.Sql

structure DataLake where
  inputFeatures : Snapshot (List (String × List Feature))
  outputFeatures : Snapshot (List (String × List Feature))
  movements : Snapshot (List (String × Int))
  dashboard : Snapshot (List Row)

namespace DataLake

def empty : DataLake := ⟨.start [], .start [], .start [], .start []⟩

end DataLake

inductive Job where
  | inputFeatures
  | outputFeatures
  | movements
  | dashboard
deriving DecidableEq, Repr

namespace Job

/-- All jobs, in the order in which a round runs them. -/
def all : List Job := [inputFeatures, outputFeatures, movements, dashboard]

end Job

/-- How many rows a refresh reads at most. -/
def refreshRowLimit : Nat := 1000000

namespace LakeColumn

def eventDate : Ident := ⟨"eventdate", by decide⟩

def featureName : Ident := ⟨"var", by decide⟩

def timestamp : Ident := ⟨"ts", by decide⟩

def partitionDate : Ident := ⟨"partitiondate", by decide⟩

def processed : Ident := ⟨"processed", by decide⟩

def time : Ident := ⟨"time", by decide⟩

end LakeColumn

/-- The rows of a table under some conditions, the latest first if a column to tell is given. -/
def lakeQuery (table : String) (predicates : List Predicate) (latestBy : Option Ident)
    (dialect : Dialect) : Except QueryError String := do
  let relation ← Relation.ofText table
  let order := latestBy.toList.map fun c => (SortKey.column c, Direction.desc)
  return Select.render dialect
    ⟨[.wildcard], relation, predicates, none, order, 0, refreshRowLimit⟩

def textIn (column : Ident) (values : List String) : Predicate :=
  .oneOf column (values.map .text)

namespace Settings

def inputFeaturesSql (s : Settings) (dialect : Dialect) (today : Date) : Except QueryError String :=
  if s.inputFeatures.isEmpty then .error (.invalidRequest .noInputFeatures)
  else
    lakeQuery s.inputFeaturesTable
      [textIn LakeColumn.eventDate (today.monthWindow s.monthRolloverDay),
        textIn LakeColumn.featureName s.inputFeatures]
      (some LakeColumn.timestamp) dialect

def outputFeaturesSql (s : Settings) (dialect : Dialect) (today : Date) :
    Except QueryError String :=
  lakeQuery s.outputFeaturesTable
    [textIn LakeColumn.partitionDate today.yearWindow,
      .compare LakeColumn.processed .eq (.number "1")]
    (some LakeColumn.time) dialect

def dashboardSql (s : Settings) (dialect : Dialect) (today : Date) : Except QueryError String :=
  lakeQuery s.dashboardTable [textIn LakeColumn.partitionDate today.yearWindow] none dialect

end Settings

namespace Job

/-- The query of a job; there is none for a job that is switched off. -/
def query (job : Job) (s : Settings) (dialect : Dialect) (today : Date) :
    Option (Except QueryError String) :=
  match job with
  | inputFeatures =>
    if s.cacheInputFeatures then some (s.inputFeaturesSql dialect today) else none
  | outputFeatures =>
    if s.cacheOutputFeatures then some (s.outputFeaturesSql dialect today) else none
  | movements => s.movementsSql.map .ok
  | dashboard => some (s.dashboardSql dialect today)

end Job

namespace DataLake

def featureIndex (s : Settings) (rows : List Row) : List (String × List Feature) :=
  Feature.index (rows.filterMap (Feature.ofRow? s.featureKeyColumn))

def movementIndex (rows : List Row) : List (String × Int) :=
  Movement.index (rows.filterMap Movement.ofRow?)

/-- Replaces the snapshot of a job by what its rows give. -/
def load (l : DataLake) (s : Settings) (job : Job) (rows : List Row) : DataLake :=
  match job with
  | .inputFeatures => { l with inputFeatures := l.inputFeatures.replace (featureIndex s rows) }
  | .outputFeatures => { l with outputFeatures := l.outputFeatures.replace (featureIndex s rows) }
  | .movements => { l with movements := l.movements.replace (movementIndex rows) }
  | .dashboard => { l with dashboard := l.dashboard.replace rows }

/-- Runs one job, and tells whether it replaced its snapshot. -/
def refresh (l : DataLake) (s : Settings) (dialect : Dialect) (today : Date) (job : Job) :
    Exchange (DataLake × Bool) :=
  match job.query s dialect today with
  | none => .done (l, false)
  | some (.error _) => .done (l, false)
  | some (.ok sql) => .execute sql fun
    | .error _ => .done (l, false)
    | .ok rows => .done (l.load s job rows, true)

/-- Runs jobs one after the other. -/
def refreshEach (l : DataLake) (s : Settings) (dialect : Dialect) (today : Date) :
    List Job → Exchange DataLake
  | [] => .done l
  | job :: r => (l.refresh s dialect today job).bind fun (l, _) => l.refreshEach s dialect today r

end DataLake

end GridQuery
