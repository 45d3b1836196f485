import BeanMeter.Mapping.Builtin.Rule

/-! # Runtime platform

The catalog of the runtime itself: classes, collections, memory, threads and the machine. -/

namespace BeanMeter.Builtin

/-- Classes, garbage collection, memory, threads and the machine. -/
def jvm : Catalog := ⟨[
  rule "java.lang:type=ClassLoading" "jvm.class." [] [
    upDownCounter "LoadedClassCount" "loaded" (counted "class")
      "Number of classes currently loaded",
    counter "TotalLoadedClassCount" "loaded.total" (counted "class")
      "Number of classes loaded since JVM start",
    counter "UnloadedClassCount" "unloaded" (counted "class")
      "Number of classes unloaded since JVM start"],
  rule "java.lang:type=GarbageCollector,name=*" "jvm.gc." [("name", .param "name")] [
    counter "CollectionCount" "collections.count" (counted "collection")
      "Total number of collections that have occurred",
    counter "CollectionTime" "collections.elapsed" "ms"
      "Approximate accumulated collection elapsed time"],
  rule "java.lang:type=Memory" "jvm.memory." [] [
    upDownCounter "HeapMemoryUsage.used" "heap.used" "By" "Current heap usage",
    upDownCounter "HeapMemoryUsage.committed" "heap.committed" "By" "Committed heap memory",
    upDownCounter "HeapMemoryUsage.max" "heap.max" "By" "Maximum obtainable heap memory",
    upDownCounter "NonHeapMemoryUsage.used" "nonheap.used" "By" "Current non-heap usage",
    upDownCounter "NonHeapMemoryUsage.committed" "nonheap.committed" "By"
      "Committed non-heap memory"],
  rule "java.lang:type=MemoryPool,name=*" "jvm.memory.pool."
    [("name", .param "name"), ("type", .beanAttr "Type")] [
    upDownCounter "Usage.used" "used" "By" "Current memory pool usage",
    upDownCounter "Usage.committed" "committed" "By" "Committed memory pool size",
    upDownCounter "Usage.max" "max" "By" "Maximum obtainable memory pool size"],
  rule "java.lang:type=Threading" "jvm.thread." [] [
    upDownCounter "ThreadCount" "count" (counted "thread") "Number of live threads",
    upDownCounter "DaemonThreadCount" "daemon.count" (counted "thread")
      "Number of live daemon threads"],
  rule "java.lang:type=OperatingSystem" "jvm." [] [
    gauge "ProcessCpuLoad" "cpu.recent_utilization" "1" "Recent CPU utilization for the process",
    upDownCounter "AvailableProcessors" "cpu.count" (counted "cpu")
      "Number of processors available to the JVM",
    gauge "SystemLoadAverage" "system.cpu.load_1m" (counted "run_queue_item")
      "Average CPU load of the whole system for the last minute",
    upDownCounter "OpenFileDescriptorCount" "file_descriptor.count" (counted "file_descriptor")
      "Number of open file descriptors"]]⟩

end BeanMeter.Builtin
