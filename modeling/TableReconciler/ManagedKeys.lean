import TableReconciler.PropertyMap

/-!
# Managed properties

The catalog adds properties of its own to every table and view.  They are never written in a
statement, and their presence on the catalog's side is never taken for a change by the user.  The
managed keys tell them from the properties that the user controls.
-/

namespace TableReconciler

/-- The property keys that the catalog manages.  Keys are compared exactly. -/
structure ManagedKeys where
  /-- The managed keys; repetitions and order do not matter. -/
  keys : List String
  deriving DecidableEq, Repr

namespace ManagedKeys

/-- Whether the catalog manages a key. -/
def manages (managed : ManagedKeys) (key : String) : Bool :=
  managed.keys.contains key

/-- The number of managed keys. -/
def size (managed : ManagedKeys) : Nat :=
  managed.keys.eraseDups.length

/-- Manage further keys as well. -/
def extend (managed : ManagedKeys) (keys : List String) : ManagedKeys :=
  ⟨managed.keys ++ keys⟩

/-- The pairs of a map that the user controls. -/
def unmanaged (managed : ManagedKeys) (m : PropertyMap) : PropertyMap :=
  m.filterKeys fun key => !managed.manages key

/-- The keys that the catalog manages unless it is told otherwise. -/
def default : ManagedKeys where
  keys := [
    "clusteringColumns",
    "delta.lastCommitTimestamp",
    "delta.lastUpdateVersion",
    "delta.minReaderVersion",
    "delta.minWriterVersion",
    "delta.columnMapping.maxColumnId",
    "delta.enableDeletionVectors",
    "delta.enableRowTracking",
    "delta.feature.clustering",
    "delta.feature.changeDataFeed",
    "delta.feature.deletionVectors",
    "delta.feature.domainMetadata",
    "delta.feature.liquid",
    "delta.feature.rowTracking",
    "delta.feature.v2Checkpoint",
    "delta.feature.timestampNtz",
    "delta.liquid.clusteringColumns",
    "delta.rowTracking.materializedRowCommitVersionColumnName",
    "delta.rowTracking.materializedRowIdColumnName",
    "delta.checkpoint.writeStatsAsJson",
    "delta.checkpoint.writeStatsAsStruct",
    "delta.checkpointPolicy",
    "view.catalogAndNamespace.numParts",
    "view.catalogAndNamespace.part.0",
    "view.catalogAndNamespace.part.1",
    "view.query.out.col.0",
    "view.query.out.numCols",
    "view.referredTempFunctionsNames",
    "view.referredTempViewNames",
    "view.sqlConfig.spark.sql.hive.convertCTAS",
    "view.sqlConfig.spark.sql.legacy.createHiveTableByDefault",
    "view.sqlConfig.spark.sql.parquet.compression.codec",
    "view.sqlConfig.spark.sql.session.timeZone",
    "view.sqlConfig.spark.sql.sources.commitProtocolClass",
    "view.sqlConfig.spark.sql.sources.default",
    "view.sqlConfig.spark.sql.streaming.stopTimeout"]

end ManagedKeys

end TableReconciler
