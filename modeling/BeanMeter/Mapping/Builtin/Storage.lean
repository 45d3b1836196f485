import BeanMeter.Mapping.Builtin.Rule

/-! # Storage systems

Catalogs of data bases, file systems and search engines. -/

namespace BeanMeter.Builtin

/-- Requests, storage and compaction of a node. -/
def cassandra : Catalog := ⟨[
  rule "org.apache.cassandra.metrics:type=ClientRequest,scope=Read,name=Latency"
    "cassandra.client.request.read." [] [
    counter "Count" "latency.count" (counted "operation") "Number of read requests",
    gauge "50thPercentile" "latency.50p" "us" "Token range read request latency, 50th percentile",
    gauge "99thPercentile" "latency.99p" "us" "Token range read request latency, 99th percentile",
    gauge "Max" "latency.max" "us" "Maximum token range read request latency"],
  rule "org.apache.cassandra.metrics:type=ClientRequest,scope=Write,name=Latency"
    "cassandra.client.request.write." [] [
    counter "Count" "latency.count" (counted "operation") "Number of write requests",
    gauge "50thPercentile" "latency.50p" "us" "Regular write request latency, 50th percentile",
    gauge "99thPercentile" "latency.99p" "us" "Regular write request latency, 99th percentile"],
  rule "org.apache.cassandra.metrics:type=Storage,name=Load" "cassandra.storage." [] [
    upDownCounter "Count" "load.count" "By" "Size of the on disk data in bytes"],
  rule "org.apache.cassandra.metrics:type=Storage,name=TotalHints" "cassandra.storage." [] [
    counter "Count" "total_hints.count" (counted "hint")
      "Number of hint messages written to this node since restart"],
  rule "org.apache.cassandra.metrics:type=Compaction,name=PendingTasks" "cassandra.compaction." [] [
    gauge "Value" "tasks.pending" (counted "task")
      "Estimated number of compactions remaining to perform"]]⟩

/-- Capacity, blocks and files of a name node. -/
def hadoop : Catalog := ⟨[
  rule "Hadoop:service=NameNode,name=FSNamesystem" "hadoop."
    [("node_name", .beanAttr "tag.Hostname")] [
    upDownCounter "CapacityUsed" "capacity.usage" "By"
      "The current used capacity across all data nodes",
    upDownCounter "CapacityTotal" "capacity.limit" "By" "The total capacity allotted to data nodes",
    upDownCounter "BlocksTotal" "block.count" (counted "block")
      "The total number of blocks on the name node",
    upDownCounter "MissingBlocks" "block.missing" (counted "block")
      "The number of blocks reported as missing",
    upDownCounter "CorruptBlocks" "block.corrupt" (counted "block")
      "The number of blocks reported as corrupt",
    upDownCounter "FilesTotal" "file.count" (counted "file")
      "The total number of files being tracked by the name node",
    upDownCounter "NumLiveDataNodes" "datanode.live" (counted "node")
      "The number of data nodes reporting as live",
    upDownCounter "NumDeadDataNodes" "datanode.dead" (counted "node")
      "The number of data nodes reporting as dead"]]⟩

/-- Regions and servers of a cluster. -/
def hbase : Catalog := ⟨[
  rule "Hadoop:service=HBase,name=Master,sub=Server" "hbase.master." [] [
    upDownCounter "numRegionServers" "region_server.count" (counted "server")
      "The number of region servers",
    upDownCounter "numDeadRegionServers" "region_server.dead" (counted "server")
      "The number of dead region servers"],
  rule "Hadoop:service=HBase,name=Master,sub=AssignmentManager" "hbase.master." [] [
    upDownCounter "ritCount" "regions_in_transition.count" (counted "region")
      "The number of regions in transition"],
  rule "Hadoop:service=HBase,name=RegionServer,sub=Server" "hbase.region_server."
    [("region_server", .beanAttr "tag.Hostname")] [
    upDownCounter "regionCount" "region.count" (counted "region")
      "The number of regions hosted by the region server",
    upDownCounter "storeFileCount" "disk.store_file.count" (counted "file")
      "The number of store files on disk",
    upDownCounter "memStoreSize" "memstore.size" "By" "Size of the memstore",
    counter "totalRequestCount" "request.count" (counted "request")
      "The number of requests received"]]⟩

/-- Documents, queries and caches of an index. -/
def solr : Catalog := ⟨[
  rule "solr:dom1=core,dom2=*,category=SEARCHER,scope=searcher,name=numDocs" "solr."
    [("core", .param "dom2")] [
    upDownCounter "Value" "document.count" (counted "document")
      "The total number of indexed documents"],
  rule "solr:dom1=core,dom2=*,category=INDEX,name=sizeInBytes" "solr." [("core", .param "dom2")] [
    upDownCounter "Value" "index.size" "By" "The total index size"],
  rule "solr:dom1=core,dom2=*,category=QUERY,scope=*,name=requests" "solr."
    [("core", .param "dom2"), ("handler", .param "scope")] [
    counter "Count" "request.count" (counted "query") "The number of queries made"],
  rule "solr:dom1=core,dom2=*,category=QUERY,scope=*,name=errors" "solr."
    [("core", .param "dom2"), ("handler", .param "scope")] [
    counter "Count" "request.error.count" (counted "query")
      "The number of queries resulting in an error"],
  rule "solr:dom1=core,dom2=*,category=CACHE,scope=*,name=queryResultCache" "solr.cache."
    [("core", .param "dom2"), ("cache", .param "scope")] [
    counter "hits" "hit.count" (counted "hit") "The number of hits for a cache",
    upDownCounter "size" "size" "By" "The size of the cache occupied in memory"]]⟩

end BeanMeter.Builtin
