/-! # Documents of the built-in catalogs

The catalogs of the target systems as they are written, each a text in the form in which users write
their own.

* `Catalog.documents` — the texts by target system.
-/

namespace BeanMeter

namespace Builtin.Document

/-- Destinations and connections of a broker. -/
def activeMq : String := "rules:
  - bean: org.apache.activemq:type=Broker,brokerName=*,destinationType=*,destinationName=*
    prefix: activemq.
    metricAttribute:
      destination: param(destinationName)
      broker: param(brokerName)
    mapping:
      ProducerCount:
        metric: producer.count
        type: updowncounter
        unit: \"\x7bproducer\x7d\"
        desc: The number of producers attached to this destination
      ConsumerCount:
        metric: consumer.count
        type: updowncounter
        unit: \"\x7bconsumer\x7d\"
        desc: The number of consumers subscribed to this destination
      MemoryPercentUsage:
        metric: memory.usage
        type: gauge
        unit: \"%\"
        desc: The percentage of configured memory used
      QueueSize:
        metric: message.current
        type: updowncounter
        unit: \"\x7bmessage\x7d\"
        desc: The current number of messages waiting to be consumed
      ExpiredCount:
        metric: message.expired
        type: counter
        unit: \"\x7bmessage\x7d\"
        desc: The total number of messages not delivered because they expired
      EnqueueCount:
        metric: message.enqueued
        type: counter
        unit: \"\x7bmessage\x7d\"
        desc: The total number of messages received by the broker
      DequeueCount:
        metric: message.dequeued
        type: counter
        unit: \"\x7bmessage\x7d\"
        desc: The total number of messages delivered to consumers
      AverageEnqueueTime:
        metric: message.wait_time.avg
        type: gauge
        unit: ms
        desc: The average time a message was held on this destination

  - bean: org.apache.activemq:type=Broker,brokerName=*
    prefix: activemq.
    metricAttribute:
      broker: param(brokerName)
    mapping:
      CurrentConnectionsCount:
        metric: connection.count
        type: updowncounter
        unit: \"\x7bconnection\x7d\"
        desc: The total number of current connections
      StorePercentUsage:
        metric: disk.store_usage
        type: gauge
        unit: \"%\"
        desc: The percentage of configured disk used for persistent messages
      TempPercentUsage:
        metric: disk.temp_usage
        type: gauge
        unit: \"%\"
        desc: The percentage of configured disk used for non-persistent messages
"

/-- Requests, storage and compaction of a node. -/
def cassandra : String := "rules:
  - bean: org.apache.cassandra.metrics:type=ClientRequest,scope=Read,name=Latency
    prefix: cassandra.client.request.read.
    mapping:
      Count:
        metric: latency.count
        type: counter
        unit: \"\x7boperation\x7d\"
        desc: Number of read requests
      50thPercentile:
        metric: latency.50p
        type: gauge
        unit: us
        desc: Token range read request latency, 50th percentile
      99thPercentile:
        metric: latency.99p
        type: gauge
        unit: us
        desc: Token range read request latency, 99th percentile
      Max:
        metric: latency.max
        type: gauge
        unit: us
        desc: Maximum token range read request latency

  - bean: org.apache.cassandra.metrics:type=ClientRequest,scope=Write,name=Latency
    prefix: cassandra.client.request.write.
    mapping:
      Count:
        metric: latency.count
        type: counter
        unit: \"\x7boperation\x7d\"
        desc: Number of write requests
      50thPercentile:
        metric: latency.50p
        type: gauge
        unit: us
        desc: Regular write request latency, 50th percentile
      99thPercentile:
        metric: latency.99p
        type: gauge
        unit: us
        desc: Regular write request latency, 99th percentile

  - bean: org.apache.cassandra.metrics:type=Storage,name=Load
    prefix: cassandra.storage.
    mapping:
      Count:
        metric: load.count
        type: updowncounter
        unit: By
        desc: Size of the on disk data in bytes

  - bean: org.apache.cassandra.metrics:type=Storage,name=TotalHints
    prefix: cassandra.storage.
    mapping:
      Count:
        metric: total_hints.count
        type: counter
        unit: \"\x7bhint\x7d\"
        desc: Number of hint messages written to this node since restart

  - bean: org.apache.cassandra.metrics:type=Compaction,name=PendingTasks
    prefix: cassandra.compaction.
    mapping:
      Value:
        metric: tasks.pending
        type: gauge
        unit: \"\x7btask\x7d\"
        desc: Estimated number of compactions remaining to perform
"

/-- Regions and servers of a cluster. -/
def hbase : String := "rules:
  - bean: Hadoop:service=HBase,name=Master,sub=Server
    prefix: hbase.master.
    mapping:
      numRegionServers:
        metric: region_server.count
        type: updowncounter
        unit: \"\x7bserver\x7d\"
        desc: The number of region servers
      numDeadRegionServers:
        metric: region_server.dead
        type: updowncounter
        unit: \"\x7bserver\x7d\"
        desc: The number of dead region servers

  - bean: Hadoop:service=HBase,name=Master,sub=AssignmentManager
    prefix: hbase.master.
    mapping:
      ritCount:
        metric: regions_in_transition.count
        type: updowncounter
        unit: \"\x7bregion\x7d\"
        desc: The number of regions in transition

  - bean: Hadoop:service=HBase,name=RegionServer,sub=Server
    prefix: hbase.region_server.
    metricAttribute:
      region_server: beanattr(tag.Hostname)
    mapping:
      regionCount:
        metric: region.count
        type: updowncounter
        unit: \"\x7bregion\x7d\"
        desc: The number of regions hosted by the region server
      storeFileCount:
        metric: disk.store_file.count
        type: updowncounter
        unit: \"\x7bfile\x7d\"
        desc: The number of store files on disk
      memStoreSize:
        metric: memstore.size
        type: updowncounter
        unit: By
        desc: Size of the memstore
      totalRequestCount:
        metric: request.count
        type: counter
        unit: \"\x7brequest\x7d\"
        desc: The number of requests received
"

/-- Capacity, blocks and files of a name node. -/
def hadoop : String := "rules:
  - bean: Hadoop:service=NameNode,name=FSNamesystem
    prefix: hadoop.
    metricAttribute:
      node_name: beanattr(tag.Hostname)
    mapping:
      CapacityUsed:
        metric: capacity.usage
        type: updowncounter
        unit: By
        desc: The current used capacity across all data nodes
      CapacityTotal:
        metric: capacity.limit
        type: updowncounter
        unit: By
        desc: The total capacity allotted to data nodes
      BlocksTotal:
        metric: block.count
        type: updowncounter
        unit: \"\x7bblock\x7d\"
        desc: The total number of blocks on the name node
      MissingBlocks:
        metric: block.missing
        type: updowncounter
        unit: \"\x7bblock\x7d\"
        desc: The number of blocks reported as missing
      CorruptBlocks:
        metric: block.corrupt
        type: updowncounter
        unit: \"\x7bblock\x7d\"
        desc: The number of blocks reported as corrupt
      FilesTotal:
        metric: file.count
        type: updowncounter
        unit: \"\x7bfile\x7d\"
        desc: The total number of files being tracked by the name node
      NumLiveDataNodes:
        metric: datanode.live
        type: updowncounter
        unit: \"\x7bnode\x7d\"
        desc: The number of data nodes reporting as live
      NumDeadDataNodes:
        metric: datanode.dead
        type: updowncounter
        unit: \"\x7bnode\x7d\"
        desc: The number of data nodes reporting as dead
"

/-- Selectors, sessions and threads. -/
def jetty : String := "rules:
  - bean: org.eclipse.jetty.io:context=*,type=managedselector,id=*
    prefix: jetty.select.
    metricAttribute:
      context: param(context)
      id: param(id)
    mapping:
      selectCount:
        metric: count
        type: counter
        unit: \"\x7boperation\x7d\"
        desc: The number of select calls

  - bean: org.eclipse.jetty.server.session:context=*,type=sessionhandler,id=*
    prefix: jetty.session.
    metricAttribute:
      resource: param(context)
    mapping:
      sessionsCreated:
        metric: count
        type: counter
        unit: \"\x7bsession\x7d\"
        desc: The number of sessions established in total
      sessionTimeTotal:
        metric: time.total
        type: counter
        unit: s
        desc: The total time sessions have been active
      sessionTimeMax:
        metric: time.max
        type: gauge
        unit: s
        desc: The maximum amount of time a session has been active

  - bean: org.eclipse.jetty.util.thread:type=queuedthreadpool,id=*
    prefix: jetty.thread.
    metricAttribute:
      id: param(id)
    mapping:
      busyThreads:
        metric: busy.count
        type: updowncounter
        unit: \"\x7bthread\x7d\"
        desc: The current number of busy threads
      idleThreads:
        metric: idle.count
        type: updowncounter
        unit: \"\x7bthread\x7d\"
        desc: The current number of idle threads
      queueSize:
        metric: queue.count
        type: updowncounter
        unit: \"\x7bthread\x7d\"
        desc: The current number of threads in the queue
"

/-- Classes, garbage collection, memory, threads and the machine. -/
def jvm : String := "rules:
  - bean: java.lang:type=ClassLoading
    prefix: jvm.class.
    mapping:
      LoadedClassCount:
        metric: loaded
        type: updowncounter
        unit: \"\x7bclass\x7d\"
        desc: Number of classes currently loaded
      TotalLoadedClassCount:
        metric: loaded.total
        type: counter
        unit: \"\x7bclass\x7d\"
        desc: Number of classes loaded since JVM start
      UnloadedClassCount:
        metric: unloaded
        type: counter
        unit: \"\x7bclass\x7d\"
        desc: Number of classes unloaded since JVM start

  - bean: java.lang:type=GarbageCollector,name=*
    prefix: jvm.gc.
    metricAttribute:
      name: param(name)
    mapping:
      CollectionCount:
        metric: collections.count
        type: counter
        unit: \"\x7bcollection\x7d\"
        desc: Total number of collections that have occurred
      CollectionTime:
        metric: collections.elapsed
        type: counter
        unit: ms
        desc: Approximate accumulated collection elapsed time

  - bean: java.lang:type=Memory
    prefix: jvm.memory.
    mapping:
      HeapMemoryUsage.used:
        metric: heap.used
        type: updowncounter
        unit: By
        desc: Current heap usage
      HeapMemoryUsage.committed:
        metric: heap.committed
        type: updowncounter
        unit: By
        desc: Committed heap memory
      HeapMemoryUsage.max:
        metric: heap.max
        type: updowncounter
        unit: By
        desc: Maximum obtainable heap memory
      NonHeapMemoryUsage.used:
        metric: nonheap.used
        type: updowncounter
        unit: By
        desc: Current non-heap usage
      NonHeapMemoryUsage.committed:
        metric: nonheap.committed
        type: updowncounter
        unit: By
        desc: Committed non-heap memory

  - bean: java.lang:type=MemoryPool,name=*
    prefix: jvm.memory.pool.
    metricAttribute:
      name: param(name)
      type: beanattr(Type)
    mapping:
      Usage.used:
        metric: used
        type: updowncounter
        unit: By
        desc: Current memory pool usage
      Usage.committed:
        metric: committed
        type: updowncounter
        unit: By
        desc: Committed memory pool size
      Usage.max:
        metric: max
        type: updowncounter
        unit: By
        desc: Maximum obtainable memory pool size

  - bean: java.lang:type=Threading
    prefix: jvm.thread.
    mapping:
      ThreadCount:
        metric: count
        type: updowncounter
        unit: \"\x7bthread\x7d\"
        desc: Number of live threads
      DaemonThreadCount:
        metric: daemon.count
        type: updowncounter
        unit: \"\x7bthread\x7d\"
        desc: Number of live daemon threads

  - bean: java.lang:type=OperatingSystem
    prefix: jvm.
    mapping:
      ProcessCpuLoad:
        metric: cpu.recent_utilization
        type: gauge
        unit: \"1\"
        desc: Recent CPU utilization for the process
      AvailableProcessors:
        metric: cpu.count
        type: updowncounter
        unit: \"\x7bcpu\x7d\"
        desc: Number of processors available to the JVM
      SystemLoadAverage:
        metric: system.cpu.load_1m
        type: gauge
        unit: \"\x7brun_queue_item\x7d\"
        desc: Average CPU load of the whole system for the last minute
      OpenFileDescriptorCount:
        metric: file_descriptor.count
        type: updowncounter
        unit: \"\x7bfile_descriptor\x7d\"
        desc: Number of open file descriptors
"

/-- Topics, requests and partitions of a broker. -/
def kafka : String := "rules:
  - bean: kafka.server:type=BrokerTopicMetrics,name=MessagesInPerSec
    prefix: kafka.
    mapping:
      Count:
        metric: message.count
        type: counter
        unit: \"\x7bmessage\x7d\"
        desc: The number of messages received by the broker

  - bean: kafka.server:type=BrokerTopicMetrics,name=BytesInPerSec
    prefix: kafka.
    metricAttribute:
      direction: const(in)
    mapping:
      Count:
        metric: network.io.in
        type: counter
        unit: By
        desc: The bytes received by the broker

  - bean: kafka.server:type=BrokerTopicMetrics,name=BytesOutPerSec
    prefix: kafka.
    metricAttribute:
      direction: const(out)
    mapping:
      Count:
        metric: network.io.out
        type: counter
        unit: By
        desc: The bytes sent by the broker

  - bean: kafka.network:type=RequestMetrics,name=RequestsPerSec,request=*
    prefix: kafka.
    metricAttribute:
      type: param(request)
    mapping:
      Count:
        metric: request.count
        type: counter
        unit: \"\x7brequest\x7d\"
        desc: The number of requests received by the broker

  - bean: kafka.server:type=ReplicaManager,name=PartitionCount
    prefix: kafka.
    mapping:
      Value:
        metric: partition.count
        type: updowncounter
        unit: \"\x7bpartition\x7d\"
        desc: The number of partitions on the broker

  - bean: kafka.server:type=ReplicaManager,name=UnderReplicatedPartitions
    prefix: kafka.
    mapping:
      Value:
        metric: partition.under_replicated
        type: updowncounter
        unit: \"\x7bpartition\x7d\"
        desc: The number of under replicated partitions

  - bean: kafka.controller:type=KafkaController,name=ActiveControllerCount
    prefix: kafka.
    mapping:
      Value:
        metric: controller.active.count
        type: updowncounter
        unit: \"\x7bcontroller\x7d\"
        desc: For KRaft mode, the number of active controllers in the cluster
"

/-- What a consumer fetches. -/
def kafkaConsumer : String := "rules:
  - bean: kafka.consumer:type=consumer-fetch-manager-metrics,client-id=*
    prefix: kafka.consumer.
    metricAttribute:
      client-id: param(client-id)
    mapping:
      fetch-rate:
        metric: fetch-rate
        type: gauge
        unit: \"\x7bfetch\x7d/s\"
        desc: The number of fetch requests for all topics per second
      records-lag-max:
        metric: records-lag-max
        type: gauge
        unit: \"\x7brecord\x7d\"
        desc: Number of messages the consumer lags behind the producer
      bytes-consumed-rate:
        metric: total.bytes-consumed-rate
        type: gauge
        unit: By/s
        desc: The average number of bytes consumed for all topics per second
      records-consumed-rate:
        metric: total.records-consumed-rate
        type: gauge
        unit: \"\x7brecord\x7d/s\"
        desc: The average number of records consumed for all topics per second

  - bean: kafka.consumer:type=consumer-fetch-manager-metrics,client-id=*,topic=*
    prefix: kafka.consumer.
    metricAttribute:
      client-id: param(client-id)
      topic: param(topic)
    mapping:
      bytes-consumed-rate:
        metric: bytes-consumed-rate
        type: gauge
        unit: By/s
        desc: The average number of bytes consumed per second
      records-consumed-rate:
        metric: records-consumed-rate
        type: gauge
        unit: \"\x7brecord\x7d/s\"
        desc: The average number of records consumed per second
"

/-- What a producer sends. -/
def kafkaProducer : String := "rules:
  - bean: kafka.producer:type=producer-metrics,client-id=*
    prefix: kafka.producer.
    metricAttribute:
      client-id: param(client-id)
    mapping:
      io-wait-time-ns-avg:
        metric: io-wait-time-ns-avg
        type: gauge
        unit: ns
        desc: The average length of time the I/O thread spent waiting for a socket
      outgoing-byte-rate:
        metric: outgoing-byte-rate
        type: gauge
        unit: By/s
        desc: The average number of outgoing bytes sent per second to all servers
      request-latency-avg:
        metric: request-latency-avg
        type: gauge
        unit: ms
        desc: The average request latency
      request-rate:
        metric: request-rate
        type: gauge
        unit: \"\x7brequest\x7d/s\"
        desc: The average number of requests sent per second
      response-rate:
        metric: response-rate
        type: gauge
        unit: \"\x7bresponse\x7d/s\"
        desc: Responses received per second

  - bean: kafka.producer:type=producer-topic-metrics,client-id=*,topic=*
    prefix: kafka.producer.
    metricAttribute:
      client-id: param(client-id)
      topic: param(topic)
    mapping:
      byte-rate:
        metric: byte-rate
        type: gauge
        unit: By/s
        desc: The average number of bytes sent per second for a topic
      compression-rate:
        metric: compression-rate
        type: gauge
        unit: \"\x7bratio\x7d\"
        desc: The average compression rate of record batches for a topic
      record-error-rate:
        metric: record-error-rate
        type: gauge
        unit: \"\x7brecord\x7d/s\"
        desc: The average per-second number of record sends that resulted in errors
      record-retry-rate:
        metric: record-retry-rate
        type: gauge
        unit: \"\x7brecord\x7d/s\"
        desc: The average per-second number of retried record sends
      record-send-rate:
        metric: record-send-rate
        type: gauge
        unit: \"\x7brecord\x7d/s\"
        desc: The average number of records sent per second
"

/-- Documents, queries and caches of an index. -/
def solr : String := "rules:
  - bean: solr:dom1=core,dom2=*,category=SEARCHER,scope=searcher,name=numDocs
    prefix: solr.
    metricAttribute:
      core: param(dom2)
    mapping:
      Value:
        metric: document.count
        type: updowncounter
        unit: \"\x7bdocument\x7d\"
        desc: The total number of indexed documents

  - bean: solr:dom1=core,dom2=*,category=INDEX,name=sizeInBytes
    prefix: solr.
    metricAttribute:
      core: param(dom2)
    mapping:
      Value:
        metric: index.size
        type: updowncounter
        unit: By
        desc: The total index size

  - bean: solr:dom1=core,dom2=*,category=QUERY,scope=*,name=requests
    prefix: solr.
    metricAttribute:
      core: param(dom2)
      handler: param(scope)
    mapping:
      Count:
        metric: request.count
        type: counter
        unit: \"\x7bquery\x7d\"
        desc: The number of queries made

  - bean: solr:dom1=core,dom2=*,category=QUERY,scope=*,name=errors
    prefix: solr.
    metricAttribute:
      core: param(dom2)
      handler: param(scope)
    mapping:
      Count:
        metric: request.error.count
        type: counter
        unit: \"\x7bquery\x7d\"
        desc: The number of queries resulting in an error

  - bean: solr:dom1=core,dom2=*,category=CACHE,scope=*,name=queryResultCache
    prefix: solr.cache.
    metricAttribute:
      core: param(dom2)
      cache: param(scope)
    mapping:
      hits:
        metric: hit.count
        type: counter
        unit: \"\x7bhit\x7d\"
        desc: The number of hits for a cache
      size:
        metric: size
        type: updowncounter
        unit: By
        desc: The size of the cache occupied in memory
"

/-- Sessions, requests and threads. -/
def tomcat : String := "rules:
  - bean: Catalina:type=Manager,host=localhost,context=*
    prefix: tomcat.
    metricAttribute:
      context: param(context)
    mapping:
      activeSessions:
        metric: sessions
        type: updowncounter
        unit: \"\x7bsession\x7d\"
        desc: The number of active sessions

  - bean: Catalina:type=GlobalRequestProcessor,name=*
    prefix: tomcat.
    metricAttribute:
      name: param(name)
    mapping:
      errorCount:
        metric: errors
        type: counter
        unit: \"\x7berror\x7d\"
        desc: The number of errors encountered
      requestCount:
        metric: request_count
        type: counter
        unit: \"\x7brequest\x7d\"
        desc: The total requests
      maxTime:
        metric: max_time
        type: gauge
        unit: ms
        desc: Maximum time to process a request
      processingTime:
        metric: processing_time
        type: counter
        unit: ms
        desc: The total processing time
      bytesReceived:
        metric: traffic.received
        type: counter
        unit: By
        desc: The number of bytes received
      bytesSent:
        metric: traffic.sent
        type: counter
        unit: By
        desc: The number of bytes transmitted

  - bean: Catalina:type=ThreadPool,name=*
    prefix: tomcat.threads.
    metricAttribute:
      name: param(name)
    mapping:
      currentThreadCount:
        metric: idle
        type: updowncounter
        unit: \"\x7bthread\x7d\"
        desc: The number of idle threads
      currentThreadsBusy:
        metric: busy
        type: updowncounter
        unit: \"\x7bthread\x7d\"
        desc: The number of busy threads
"

/-- Sessions, requests and data sources of deployments. -/
def wildfly : String := "rules:
  - bean: jboss.as:deployment=*,subsystem=undertow
    prefix: wildfly.session.
    metricAttribute:
      deployment: param(deployment)
    mapping:
      sessionsCreated:
        metric: count
        type: counter
        unit: \"\x7bsession\x7d\"
        desc: The number of sessions created
      activeSessions:
        metric: active
        type: updowncounter
        unit: \"\x7bsession\x7d\"
        desc: The number of active sessions
      expiredSessions:
        metric: expired
        type: counter
        unit: \"\x7bsession\x7d\"
        desc: The number of sessions that have expired
      rejectedSessions:
        metric: rejected
        type: counter
        unit: \"\x7bsession\x7d\"
        desc: The number of sessions that have been rejected

  - bean: jboss.as:subsystem=undertow,server=*,http-listener=*
    prefix: wildfly.
    metricAttribute:
      server: param(server)
      listener: param(http-listener)
    mapping:
      requestCount:
        metric: request.count
        type: counter
        unit: \"\x7brequest\x7d\"
        desc: The number of requests served
      processingTime:
        metric: request.time
        type: counter
        unit: ns
        desc: The total amount of time spent on requests
      errorCount:
        metric: request.server_error
        type: counter
        unit: \"\x7brequest\x7d\"
        desc: The number of requests that have resulted in a 5xx response
      bytesSent:
        metric: network.io.sent
        type: counter
        unit: By
        desc: The number of bytes transmitted
      bytesReceived:
        metric: network.io.received
        type: counter
        unit: By
        desc: The number of bytes received

  - bean: jboss.as:subsystem=datasources,data-source=*,statistics=pool
    prefix: wildfly.db.client.connection.
    metricAttribute:
      data_source: param(data-source)
    mapping:
      ActiveCount:
        metric: count.active
        type: updowncounter
        unit: \"\x7bconnection\x7d\"
        desc: The number of open jdbc connections in use
      IdleCount:
        metric: count.idle
        type: updowncounter
        unit: \"\x7bconnection\x7d\"
        desc: The number of idle jdbc connections
      WaitCount:
        metric: wait.count
        type: counter
        unit: \"\x7brequest\x7d\"
        desc: The number of requests that had to wait to obtain a connection
"

end Builtin.Document

open Builtin in
/-- The target systems and the documents of their catalogs. -/
def Catalog.documents : List (String × String) := [
  ("activemq", Document.activeMq),
  ("cassandra", Document.cassandra),
  ("hbase", Document.hbase),
  ("hadoop", Document.hadoop),
  ("jetty", Document.jetty),
  ("jvm", Document.jvm),
  ("kafka", Document.kafka),
  ("kafka-consumer", Document.kafkaConsumer),
  ("kafka-producer", Document.kafkaProducer),
  ("solr", Document.solr),
  ("tomcat", Document.tomcat),
  ("wildfly", Document.wildfly)]

/-- The document of a target system. -/
def Catalog.document? (system : String) : Option String :=
  (documents.find? fun d => d.1 == system).map (·.2)

end BeanMeter
